import JavaText.Text.Digit

/-!
# Text in a field

A field pads a text to a width and cuts it to a precision. It is written down as
`[[fill]align][0][width][.precision][s]`, where the alignment is `<`, `>` or `^`; a zero before the
width makes zero the fill unless the fill is given. Everything else that number fields know (signs,
group separators, other types, alignment after the sign) is refused, since the value is a text.
-/

namespace JavaText

/-- Where a text stands in a field that is wider than the text. -/
inductive Alignment
  | left
  | right
  | center
  deriving DecidableEq, Repr

/-- How a text is laid out in a field. -/
structure Field where
  /-- What pads the text to the width. -/
  fill : CodePoint
  /-- Where the text stands. -/
  alignment : Alignment
  /-- The least length of the result. -/
  width : Nat
  /-- The most that is kept of the text, if there is a limit. -/
  precision : Option Nat
  deriving DecidableEq, Repr

namespace Field

/-- An alignment sign; `some none` is the sign for numbers only. -/
def alignmentSign? (c : CodePoint) : Option (Option Alignment) :=
  if c.val = 0x3c then some (some .left)
  else if c.val = 0x3e then some (some .right)
  else if c.val = 0x5e then some (some .center)
  else if c.val = 0x3d then some none
  else none

/-- The largest width or precision that can be asked for. -/
def maxNumber : Nat := 9223372036854775807

/-- The largest width that a text can be laid out to. -/
def maxWidth : Nat := 68719476736

/-- The decimal digits at the start of a text, as a number, and what follows them. -/
def readNumber : Text → Option Nat × Text
  | [] => (none, [])
  | c :: t => go none (c :: t)
where
  /-- Read on with the number read so far. -/
  go (soFar : Option Nat) : Text → Option Nat × Text
    | [] => (soFar, [])
    | c :: t =>
      match c.digitValue? with
      | some d => go (some (soFar.getD 0 * 10 + d)) t
      | none => (soFar, c :: t)

/-- The fill and alignment at the start of a field, each if it is given, and what follows. -/
def readAlignment : Text → Option CodePoint × Option (Option Alignment) × Text
  | c :: d :: t =>
    match alignmentSign? d with
    | some a => (some c, some a, t)
    | none =>
      match alignmentSign? c with
      | some a => (none, some a, d :: t)
      | none => (none, none, c :: d :: t)
  | [c] =>
    match alignmentSign? c with
    | some a => (none, some a, [])
    | none => (none, none, [c])
  | [] => (none, none, [])

/-- Read the precision and the type that end a field. -/
def readPrecision? (t : Text) : Option (Option Nat) :=
  let ending (precision : Option Nat) (rest : Text) : Option (Option Nat) :=
    if rest = [] ∨ rest = [CodePoint.ofChar 's'] then some precision else none
  match t with
  | c :: rest =>
    if c.val = 0x2e then
      match readNumber rest with
      | (some n, rest) => if n ≤ maxNumber then ending (some n) rest else none
      | (none, _) => none
    else ending none t
  | [] => some none

/-- Read a field; nothing comes of a field that is not for text. -/
def parse? (t : Text) : Option Field :=
  match readAlignment t with
  | (_, some none, _) => none
  | (fill, alignment, rest) =>
    let (zero, rest) :=
      match fill, rest with
      | none, c :: rest => if c.val = 0x30 then (true, rest) else (false, c :: rest)
      | _, rest => (false, rest)
    let (width, rest) := readNumber rest
    if width.getD 0 ≤ maxNumber then
      (readPrecision? rest).map fun precision =>
        { fill := fill.getD (if zero then '0' else ' ')
          alignment := (alignment.bind id).getD .left
          width := width.getD 0
          precision }
    else none

/-- Cut a text to the precision and pad it to the width; of an odd padding around the middle the
larger part stands on the right. -/
def layout (f : Field) (t : Text) : Text :=
  let t := match f.precision with
    | some n => t.take n
    | none => t
  let padding := f.width - t.length
  match f.alignment with
  | .left => t ++ List.replicate padding f.fill
  | .right => List.replicate padding f.fill ++ t
  | .center =>
    List.replicate (padding / 2) f.fill ++ t ++ List.replicate (padding - padding / 2) f.fill

end Field

end JavaText
