import JavaText.Text.Blank
import JavaText.Text.Digit
import JavaText.Text.Word

/-!
# Regular expressions over code points

The shapes of tokens are given by regular expressions. `Regex.Matches` says which texts belong to
the language of an expression, by the usual rules for concatenation, alternation and repetition.
`Regex.accepts` decides membership: it reads the text once and keeps the list of expressions that
the rest of the text may still match, so that repetition needs no backtracking.
-/

namespace JavaText

/-! ## Sets of code points -/

/-- A set of code points. -/
inductive CharSet
  | single (c : CodePoint)
  | range (first last : CodePoint)
  | blank
  | digit
  | word
  | all
  | union (a b : CharSet)
  | compl (a : CharSet)
  deriving DecidableEq, Repr

namespace CharSet

/-- Membership in a set of code points. -/
def contains : CharSet → CodePoint → Bool
  | single c, d => c == d
  | range first last, d => first.val ≤ d.val && d.val ≤ last.val
  | blank, d => d.isBlank
  | digit, d => d.isDigit
  | word, d => d.isWord
  | all, _ => true
  | union a b, d => a.contains d || b.contains d
  | compl a, d => !a.contains d

/-- The set of the code points of a text. -/
def ofText : Text → CharSet
  | [] => compl all
  | [c] => single c
  | c :: t => union (single c) (ofText t)

end CharSet

/-! ## Expressions and their languages -/

/-- A regular expression. -/
inductive Regex
  | empty
  | chars (s : CharSet)
  | seq (r s : Regex)
  | alt (r s : Regex)
  | star (r : Regex)
  deriving DecidableEq, Repr

namespace Regex

/-- The language of an expression: `Matches r t` holds when the whole text `t` has the shape `r`. -/
inductive Matches : Regex → Text → Prop
  | empty : Matches .empty []
  | chars {s : CharSet} {c : CodePoint} (h : s.contains c = true) : Matches (.chars s) [c]
  | seq {r s : Regex} {t u : Text} (h : Matches r t) (h' : Matches s u) :
      Matches (.seq r s) (t ++ u)
  | left {r s : Regex} {t : Text} (h : Matches r t) : Matches (.alt r s) t
  | right {r s : Regex} {t : Text} (h : Matches s t) : Matches (.alt r s) t
  | stop {r : Regex} : Matches (.star r) []
  | more {r : Regex} {t u : Text} (h : Matches r t) (h' : Matches (.star r) u) :
      Matches (.star r) (t ++ u)

/-- One or more times. -/
def plus (r : Regex) : Regex :=
  seq r (star r)

/-- At most once. -/
def opt (r : Regex) : Regex :=
  alt r empty

/-- Exactly the given text. -/
def lit : Text → Regex
  | [] => empty
  | [c] => chars (.single c)
  | c :: t => seq (chars (.single c)) (lit t)

/-- One of the code points of a text. -/
def oneOf (t : Text) : Regex :=
  chars (.ofText t)

/-- The expressions one after another. -/
def sequence : List Regex → Regex
  | [] => empty
  | [r] => r
  | r :: rs => seq r (sequence rs)

/-! ## Deciding membership -/

/-- Whether the empty text belongs to the language. -/
def nullable : Regex → Bool
  | empty => true
  | chars _ => false
  | seq r s => r.nullable && s.nullable
  | alt r s => r.nullable || s.nullable
  | star _ => true

/-- What may follow in a sequence once its first part has become `r`. -/
def followedBy (r s : Regex) : Regex :=
  match r with
  | empty => s
  | _ => seq r s

/-- The expressions one of which the rest of a text must match after its first code point. -/
def after (c : CodePoint) : Regex → List Regex
  | empty => []
  | chars s => if s.contains c then [empty] else []
  | seq r s =>
    (r.after c).map (followedBy · s) ++ if r.nullable then s.after c else []
  | alt r s => r.after c ++ s.after c
  | star r => (r.after c).map (followedBy · (star r))

/-- Whether the text matches one of the expressions. -/
def acceptsAny : List Regex → Text → Bool
  | rs, [] => rs.any nullable
  | rs, c :: t => acceptsAny (rs.flatMap (after c)).eraseDups t

/-- Whether the whole text belongs to the language of an expression. -/
def accepts (r : Regex) (t : Text) : Bool :=
  acceptsAny [r] t

end Regex

end JavaText
