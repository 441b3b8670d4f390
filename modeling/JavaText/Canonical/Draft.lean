import JavaText.Canonical.Spacing
import JavaText.Tree.Focus

/-!
# Writing the canonical text

The canonical text is written piece by piece, from left to right. A draft holds the pieces so far
and whether the last token asks for a space after it. `Draft.writeToken` adds one token with the
spaces and the line break that the rules give it; trivia and empty tokens add nothing.
-/

namespace JavaText

/-- The part of a canonical text that is already written. -/
structure Draft where
  /-- The pieces of the text, in order; none of them is empty. -/
  pieces : Array Text
  /-- Whether the last token asks for a space after it. -/
  asksSpace : Bool
  deriving DecidableEq, Repr

namespace Draft

/-- Nothing is written yet. -/
def empty : Draft :=
  { pieces := #[], asksSpace := false }

/-- The text written so far. -/
def text (d : Draft) : Text :=
  d.pieces.toList.flatten

/-- A single space. -/
def space : Text := " "

/-- A line break. -/
def lineBreak : Text := "\n"

/-- Whether the pieces spell a text. No piece is empty, so more pieces than the text has code
points cannot. -/
def spells (pieces : Array Text) (t : Text) : Bool :=
  decide (pieces.size ≤ t.length) && pieces.toList.flatten == t

/-- Write one token. The word `return` at the very start is kept apart from what follows, unless
that is a semicolon. -/
def writeToken (s : Surroundings) (t : Token) (d : Draft) : Draft :=
  if t.isVisible then
    let pieces :=
      if (d.asksSpace && Spacing.acceptsSpaceBefore s t.kind) || Spacing.demandsSpaceBefore s t.kind
      then d.pieces.push space else d.pieces
    let pieces :=
      if t.rawText != Text.ofString ";" && spells pieces "return" then pieces.push space else pieces
    let pieces := pieces.push t.rawText
    let pieces := if Spacing.endsLine s t.kind then pieces.push lineBreak else pieces
    { pieces, asksSpace := Spacing.asksSpaceAfter s t.kind }
  else d

end Draft

namespace Tree

mutual

/-- Write a tree that stands in the given place. -/
def write (s : Surroundings) : Tree → Draft → Draft
  | token t, d => d.writeToken s t
  | construct kind ts, d => writeAll (s.enter kind) ts d

/-- Write several trees that stand in the given place. -/
def writeAll (s : Surroundings) : List Tree → Draft → Draft
  | [], d => d
  | t :: ts, d => writeAll s ts (write s t d)

end

/-- The canonical text of a tree that stands in the given place. -/
def canonicalIn (s : Surroundings) (t : Tree) : Text :=
  (t.write s .empty).text

/-- The canonical text of a tree with nothing above it. -/
def canonical (t : Tree) : Text :=
  t.canonicalIn .outermost

end Tree

/-- The canonical text of a subtree in its place. -/
def Focus.canonical (f : Focus) : Text :=
  f.tree.canonicalIn (.ofAncestors f.ancestors)

end JavaText
