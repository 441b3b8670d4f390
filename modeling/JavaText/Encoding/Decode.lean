import JavaText.Encoding.Basic

/-!
# From bytes to text

The bytes are read from left to right. At each place an encoding sees either a code point and the
bytes that spell it, or bytes that spell nothing; the latter are left to the handler. What spells
nothing in UTF-8 is the longest start of a valid sequence, or one byte if there is none.
-/

namespace JavaText

/-- Why bytes could not be decoded. -/
inductive DecodeError
  | undecodable
  | unsuitableHandler
  | unknown (name : UnknownName)
  deriving DecidableEq, Repr

/-- What an encoding sees at a place: a code point and how many bytes spell it, or how many bytes
spell nothing. -/
inductive Sight
  | char (c : CodePoint) (size : Nat)
  | bad (size : Nat)
  deriving DecidableEq, Repr

namespace Encoding

/-! ## Single bytes and code units -/

/-- A byte that continues a sequence of UTF-8. -/
def isContinuation (b : UInt8) : Bool :=
  0x80 ≤ b.toNat && b.toNat ≤ 0xbf

/-- Whether a byte may stand second after the given first byte. -/
def isSecond (first b : UInt8) : Bool :=
  match first.toNat with
  | 0xe0 => 0xa0 ≤ b.toNat && b.toNat ≤ 0xbf
  | 0xed => 0x80 ≤ b.toNat && b.toNat ≤ 0x9f
  | 0xf0 => 0x90 ≤ b.toNat && b.toNat ≤ 0xbf
  | 0xf4 => 0x80 ≤ b.toNat && b.toNat ≤ 0x8f
  | _ => isContinuation b

/-- The six bits that a continuation byte adds. -/
def payload (b : UInt8) : Nat :=
  b.toNat % 64

/-- The 16-bit code unit of two bytes. -/
def unitOf (order : ByteOrder) (a b : UInt8) : Nat :=
  match order with
  | .little => a.toNat + 256 * b.toNat
  | .big => 256 * a.toNat + b.toNat

/-- The 32-bit code unit of four bytes. -/
def wideUnitOf (order : ByteOrder) (a b c d : UInt8) : Nat :=
  match order with
  | .little => unitOf .little a b + 65536 * unitOf .little c d
  | .big => 65536 * unitOf .big a b + unitOf .big c d

/-! ## What stands at a place -/

/-- The sight of UTF-8. -/
def sightUtf8 (a : UInt8) (rest : Bytes) : Sight :=
  let n := a.toNat
  if n < 0x80 then .char (.ofNat n) 1
  else if n < 0xc2 then .bad 1
  else if n < 0xe0 then
    match rest with
    | b :: _ => if isContinuation b then .char (.ofNat (n % 32 * 64 + payload b)) 2 else .bad 1
    | [] => .bad 1
  else if n < 0xf0 then
    match rest with
    | b :: rest =>
      if isSecond a b then
        match rest with
        | c :: _ =>
          if isContinuation c then .char (.ofNat ((n % 16 * 64 + payload b) * 64 + payload c)) 3
          else .bad 2
        | [] => .bad 2
      else .bad 1
    | [] => .bad 1
  else if n < 0xf5 then
    match rest with
    | b :: rest =>
      if isSecond a b then
        match rest with
        | c :: rest =>
          if isContinuation c then
            match rest with
            | d :: _ =>
              if isContinuation d then
                .char (.ofNat (((n % 8 * 64 + payload b) * 64 + payload c) * 64 + payload d)) 4
              else .bad 3
            | [] => .bad 3
          else .bad 2
        | [] => .bad 2
      else .bad 1
    | [] => .bad 1
  else .bad 1

/-- The sight of UTF-16. -/
def sightUtf16 (order : ByteOrder) (a : UInt8) (rest : Bytes) : Sight :=
  match rest with
  | [] => .bad 1
  | b :: rest =>
    let u := CodePoint.ofNat (unitOf order a b)
    if u.isSurrogate then
      if u.isHighSurrogate then
        match rest with
        | c :: d :: _ =>
          let v := CodePoint.ofNat (unitOf order c d)
          if v.isLowSurrogate then .char (CodePoint.joinSurrogates u v) 4 else .bad 2
        | rest => .bad (2 + rest.length)
      else .bad 2
    else .char u 2

/-- The sight of UTF-32. -/
def sightUtf32 (order : ByteOrder) (a : UInt8) (rest : Bytes) : Sight :=
  match rest with
  | b :: c :: d :: _ =>
    let n := wideUnitOf order a b c d
    if n < 0x110000 ∧ !(CodePoint.ofNat n).isSurrogate then .char (.ofNat n) 4 else .bad 4
  | rest => .bad (1 + rest.length)

/-- What the encoding sees at a place. -/
def sight (e : Encoding) (a : UInt8) (rest : Bytes) : Sight :=
  match e with
  | utf8 => sightUtf8 a rest
  | utf16 order => sightUtf16 (order.getD .little) a rest
  | utf32 order => sightUtf32 (order.getD .little) a rest
  | latin1 => .char (.ofNat a.toNat) 1
  | ascii => if a.toNat < 0x80 then .char (.ofNat a.toNat) 1 else .bad 1

/-! ## Handlers -/

/-- The surrogate that the bytes at a place spell, and how many bytes that takes. -/
def surrogateAt? (e : Encoding) (bs : Bytes) : Option (CodePoint × Nat) :=
  let found (n size : Nat) : Option (CodePoint × Nat) :=
    if (CodePoint.ofNat n).isSurrogate then some (.ofNat n, size) else none
  match e, bs with
  | utf8, a :: b :: c :: _ =>
    if a.toNat / 16 = 0xe ∧ isContinuation b ∧ isContinuation c then
      found ((a.toNat % 16 * 64 + payload b) * 64 + payload c) 3
    else none
  | utf16 order, a :: b :: _ => found (unitOf (order.getD .little) a b) 2
  | utf32 order, a :: b :: c :: d :: _ => found (wideUnitOf (order.getD .little) a b c d) 4
  | _, _ => none

/-- The bytes that are turned into surrogates at one time: at most four, and none of ASCII. -/
def escapable (bs : Bytes) : Bytes :=
  (bs.take 4).takeWhile (0x80 ≤ ·.toNat)

/-- What the handler makes of bytes that spell nothing: a text and how many bytes it stands for. -/
def handleBytes (e : Encoding) (h : Handler) (bs : Bytes) (size : Nat) :
    Except DecodeError (Text × Nat) :=
  match h with
  | .strict => .error .undecodable
  | .passSurrogates =>
    match e.surrogateAt? bs with
    | some (c, size) => .ok ([c], size)
    | none => .error .undecodable
  | .escapeBytes =>
    match escapable (bs.take size) with
    | [] => .error .undecodable
    | escaped => .ok (escaped.map fun b => .ofNat (0xdc00 + b.toNat), escaped.length)
  | .replace => .ok ([replacementCharacter], size)
  | .ignore => .ok ([], size)
  | .characterReference | .characterName _ => .error .unsuitableHandler
  | .backslashEscape =>
    .ok ((bs.take size).flatMap fun b => Text.numericEscape (.ofNat b.toNat), size)
  | .unknown name => .error (.unknown (.handler name))

/-! ## The whole text -/

/-- Decode bytes from a place on; every round takes at least one byte, so as much fuel as there
are bytes is enough. -/
def decodeFrom (e : Encoding) (h : Handler) : Nat → Bytes → Except DecodeError Text
  | _, [] => .ok []
  | 0, _ :: _ => .ok []
  | fuel + 1, a :: rest =>
    match e.sight a rest with
    | .char c size => (decodeFrom e h fuel (rest.drop (size - 1))).map (c :: ·)
    | .bad size =>
      match e.handleBytes h (a :: rest) size with
      | .error err => .error err
      | .ok (t, size) => (decodeFrom e h fuel (rest.drop (size - 1))).map (t ++ ·)

/-- The encoding with its byte order settled by a byte order mark, and the bytes after the mark. -/
def settle : Encoding → Bytes → Encoding × Bytes
  | utf16 none, 0xff :: 0xfe :: rest => (utf16 (some .little), rest)
  | utf16 none, 0xfe :: 0xff :: rest => (utf16 (some .big), rest)
  | utf32 none, 0xff :: 0xfe :: 0x00 :: 0x00 :: rest => (utf32 (some .little), rest)
  | utf32 none, 0x00 :: 0x00 :: 0xfe :: 0xff :: rest => (utf32 (some .big), rest)
  | e, bs => (e, bs)

/-- The text that bytes spell. -/
def decode (e : Encoding) (h : Handler) (bs : Bytes) : Except DecodeError Text :=
  let (e, bs) := e.settle bs
  e.decodeFrom h bs.length bs

end Encoding

end JavaText
