import JavaText.Json.Basic
import JavaText.Text.Digit

/-!
# Reading JSON

A document is one value with blanks around it; blanks are the space, the tab, the line feed and
the carriage return. Beyond the standard, the words `NaN`, `Infinity` and `-Infinity` are numbers.
A string holds no control characters. An escaped high surrogate directly before an escaped low one
spells the code point of the pair, any other surrogate stands for itself. A whole number may have
at most `Text.maxDigits` digits.

A document is read from left to right and given up at its first flaw. It may be asked to keep to
some terms: an object is looked at as soon as it ends, and arrays and objects may be open inside one
another only up to a limit.

The readers take the rest of the document and give back a value and what follows it. Those that
call one another spend one unit of fuel with each call; `Json.parse` gives them more than any
document needs.
-/

namespace JavaText

namespace Json

/-! ## Blanks and words -/

/-- A character that may stand between the parts of a document. -/
def isBlank (c : CodePoint) : Bool :=
  c.val == 0x20 || c.val == 0x09 || c.val == 0x0a || c.val == 0x0d

/-- The rest of a document without the blanks at its start. -/
def skipBlanks (t : Text) : Text :=
  t.dropWhile isBlank

/-- The values that are written as words. -/
def words : List (Text × Json) := [
  ("null", .null),
  ("true", .bool true),
  ("false", .bool false),
  ("NaN", .number "NaN"),
  ("Infinity", .number "Infinity"),
  ("-Infinity", .number "-Infinity")]

/-- Read a word. -/
def readWord? (t : Text) : Option (Json × Text) :=
  words.findSome? fun (word, value) => (Text.stripStart? word t).map fun rest => (value, rest)

/-! ## Numbers -/

/-- The digits at the start of a text and what follows them. -/
def spanDigits (t : Text) : Text × Text :=
  (t.takeWhile CodePoint.isAsciiDigit, t.dropWhile CodePoint.isAsciiDigit)

/-- The sign at the start of a number. -/
def spanSign : Text → Text × Text
  | c :: t => if c.val = 0x2d then ([c], t) else ([], c :: t)
  | [] => ([], [])

/-- The whole part of a number: a zero, or digits that do not start with one. -/
def spanWhole? (t : Text) : Option (Text × Text) :=
  match t with
  | c :: rest =>
    if c.val = 0x30 then some ([c], rest)
    else if c.isAsciiDigit then some (spanDigits t)
    else none
  | [] => none

/-- The fraction of a number: a point and at least one digit, or nothing. -/
def spanFraction : Text → Text × Text
  | c :: t =>
    match spanDigits t with
    | ([], _) => ([], c :: t)
    | (digits, rest) => if c.val = 0x2e then (c :: digits, rest) else ([], c :: t)
  | [] => ([], [])

/-- The exponent of a number: its mark, perhaps a sign, and at least one digit, or nothing. -/
def spanExponent : Text → Text × Text
  | c :: t =>
    if c.val = 0x65 ∨ c.val = 0x45 then
      let (sign, afterSign) := match t with
        | s :: u => if s.val = 0x2b ∨ s.val = 0x2d then ([s], u) else ([], s :: u)
        | [] => ([], [])
      match spanDigits afterSign with
      | ([], _) => ([], c :: t)
      | (digits, rest) => (c :: sign ++ digits, rest)
    else ([], c :: t)
  | [] => ([], [])

/-- Read a number; a whole number that is too long is refused. -/
def readNumber? (t : Text) : Option (Json × Text) := do
  let (sign, t) := spanSign t
  let (whole, t) ← spanWhole? t
  let (fraction, t) := spanFraction t
  let (exponent, t) := spanExponent t
  if fraction.isEmpty && exponent.isEmpty && decide (Text.maxDigits < whole.length) then none
  else some (.number (sign ++ whole ++ fraction ++ exponent), t)

/-! ## Strings -/

/-- A code point of a string and whether it was given by its number. -/
structure StringUnit where
  /-- The code point. -/
  code : CodePoint
  /-- Whether it was given by an escape. -/
  escaped : Bool
  deriving DecidableEq, Repr

/-- The code point that a backslash and a letter stand for. -/
def shortEscape? (c : CodePoint) : Option CodePoint :=
  match c.val with
  | 0x22 => some c
  | 0x5c => some c
  | 0x2f => some c
  | 0x62 => some '\x08'
  | 0x66 => some '\x0c'
  | 0x6e => some '\n'
  | 0x72 => some '\r'
  | 0x74 => some '\t'
  | _ => none

/-- The code point that four hexadecimal digits spell. -/
def hexUnit? (a b c d : CodePoint) : Option CodePoint := do
  let a ← a.hexValue?
  let b ← b.hexValue?
  let c ← c.hexValue?
  let d ← d.hexValue?
  some (CodePoint.ofNat (((a * 16 + b) * 16 + c) * 16 + d))

/-- Put a unit before the units of the rest of a string. -/
def consUnit (u : StringUnit) : Option (List StringUnit × Text) → Option (List StringUnit × Text)
  | some (us, rest) => some (u :: us, rest)
  | none => none

/-- Read the units of a string after its opening quote, up to and with the closing one. -/
def readUnits? : Text → Option (List StringUnit × Text)
  | [] => none
  | [c] => if c = quote then some ([], []) else none
  | c :: e :: t =>
    if c = quote then some ([], e :: t)
    else if c = backslash then
      match shortEscape? e with
      | some v => consUnit ⟨v, true⟩ (readUnits? t)
      | none =>
        if e.val = 0x75 then
          match t with
          | h₁ :: h₂ :: h₃ :: h₄ :: rest =>
            match hexUnit? h₁ h₂ h₃ h₄ with
            | some v => consUnit ⟨v, true⟩ (readUnits? rest)
            | none => none
          | _ => none
        else none
    else if c.val < 0x20 then none
    else consUnit ⟨c, false⟩ (readUnits? (e :: t))

/-- The text of the units: escaped surrogates that stand as a pair are joined. -/
def joinUnits : List StringUnit → Text
  | [] => []
  | [u] => [u.code]
  | u :: v :: us =>
    if u.escaped && v.escaped && u.code.isHighSurrogate && v.code.isLowSurrogate then
      CodePoint.joinSurrogates u.code v.code :: joinUnits us
    else u.code :: joinUnits (v :: us)

/-- Read a string after its opening quote. -/
def readString? (t : Text) : Option (Text × Text) :=
  (readUnits? t).map fun (us, rest) => (joinUnits us, rest)

/-! ## Values -/

/-- Read a text that starts with the given character, after blanks. -/
def expect? (c : CodePoint) (t : Text) : Option Text :=
  match skipBlanks t with
  | d :: rest => if d = c then some rest else none
  | [] => none

/-- Why a text is not read as a document. -/
inductive Flaw
  /-- The text is no document, or an object in it is not accepted. -/
  | invalid
  /-- Too many arrays and objects are open inside one another. -/
  | tooDeep
  deriving DecidableEq, Repr

/-- What was found, if something was. -/
def valid {α : Type} : Option α → Except Flaw α
  | some a => .ok a
  | none => .error .invalid

/-- What a document has to keep to. -/
structure Terms where
  /-- How many arrays and objects may be open inside one another, if that is limited. -/
  limit : Option Nat
  /-- Whether an object with these members is accepted. -/
  accepts : List (Text × Json) → Bool

namespace Terms

/-- Whether no array and no object can be opened inside so many others. -/
def isFull (terms : Terms) (depth : Nat) : Bool :=
  terms.limit.any (· ≤ depth)

/-- An object at its end, and what follows it. -/
def close (terms : Terms) (members : List (Text × Json)) (rest : Text) :
    Except Flaw (Json × Text) :=
  if terms.accepts members then .ok (.object members, rest) else .error .invalid

end Terms

mutual

/-- Read a value that starts right here, inside so many arrays and objects. -/
def readValue (terms : Terms) : Nat → Nat → Text → Except Flaw (Json × Text)
  | 0, _, _ => .error .invalid
  | _ + 1, _, [] => .error .invalid
  | fuel + 1, depth, c :: t =>
    match c.val with
    | 0x22 => valid ((readString? t).map fun (s, rest) => (.string s, rest))
    | 0x5b =>
      if terms.isFull depth then .error .tooDeep
      else match expect? closeArray t with
        | some rest => .ok (.array [], rest)
        | none => (readItems terms fuel (depth + 1) (skipBlanks t)).map fun (items, rest) =>
            (.array items, rest)
    | 0x7b =>
      if terms.isFull depth then .error .tooDeep
      else match expect? closeObject t with
        | some rest => terms.close [] rest
        | none => (readMembers terms fuel (depth + 1) (skipBlanks t)).bind fun (members, rest) =>
            terms.close members rest
    | _ => valid ((readWord? (c :: t)).or (readNumber? (c :: t)))

/-- Read the items of an array, up to and with the closing bracket. -/
def readItems (terms : Terms) : Nat → Nat → Text → Except Flaw (List Json × Text)
  | 0, _, _ => .error .invalid
  | fuel + 1, depth, t =>
    match readValue terms fuel depth t with
    | .error flaw => .error flaw
    | .ok (item, t) =>
      match expect? ',' t with
      | some t => (readItems terms fuel depth (skipBlanks t)).map fun (items, rest) =>
          (item :: items, rest)
      | none => valid ((expect? closeArray t).map fun rest => ([item], rest))

/-- Read the members of an object, up to and with the closing brace. -/
def readMembers (terms : Terms) : Nat → Nat → Text → Except Flaw (List (Text × Json) × Text)
  | 0, _, _ => .error .invalid
  | _ + 1, _, [] => .error .invalid
  | fuel + 1, depth, c :: t =>
    if c = quote then
      match readString? t with
      | none => .error .invalid
      | some (key, t) =>
        match expect? ':' t with
        | none => .error .invalid
        | some t =>
          match readValue terms fuel depth (skipBlanks t) with
          | .error flaw => .error flaw
          | .ok (value, t) =>
            match expect? ',' t with
            | some t => (readMembers terms fuel depth (skipBlanks t)).map fun (members, rest) =>
                ((key, value) :: members, rest)
            | none => valid ((expect? closeObject t).map fun rest => ([(key, value)], rest))
    else .error .invalid

end

/-- Read a document on some terms. -/
def parse (terms : Terms) (t : Text) : Except Flaw Json :=
  match readValue terms (2 * t.length + 2) 0 (skipBlanks t) with
  | .error flaw => .error flaw
  | .ok (value, rest) => if skipBlanks rest = [] then .ok value else .error .invalid

end Json

end JavaText
