import JavaText.Tree.Basic

/-!
# Outline of a tree

The structure of a tree on several lines, one for each node: a construct by its name, a token by
its name and its quoted text, each two spaces further in than the construct it belongs to.
-/

namespace JavaText

namespace Outline

/-- The indentation of a line. -/
def indent (depth : Nat) : Text :=
  List.replicate (2 * depth) (CodePoint.ofChar ' ')

/-- The line of a construct. -/
def constructLine (depth : Nat) (kind : Option Kind) : Text :=
  indent depth ++ Kind.name? kind

/-- A text that may be missing, as an outline shows it. -/
def shownText : Option Text → Text
  | some t => t.quoted
  | none => "None"

/-- The line of a token. -/
def tokenLine (depth : Nat) (t : Token) : Text :=
  indent depth ++ Kind.name? t.kind ++ Text.ofString ": " ++ shownText t.text

end Outline

namespace Tree

mutual

/-- The lines of the outline of a tree at a depth. -/
def outlineLines (depth : Nat) : Tree → List Text
  | token t => [Outline.tokenLine depth t]
  | construct k ts => Outline.constructLine depth k :: outlineLinesOf (depth + 1) ts

/-- The lines of the outlines of several trees at a depth. -/
def outlineLinesOf (depth : Nat) : List Tree → List Text
  | [] => []
  | t :: ts => outlineLines depth t ++ outlineLinesOf depth ts

end

/-- The outline of a tree. -/
def outline (t : Tree) : Text :=
  Text.join "\n" (outlineLines 0 t)

end Tree

end JavaText
