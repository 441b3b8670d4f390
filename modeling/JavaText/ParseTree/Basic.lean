import JavaText.ParseTree.Stream

/-!
# Parse trees

A parse tree is what a generated parser makes of a token stream: inner nodes for the rules of its
grammar and terminals for the tokens. A parser that recovers from an error may put in a token that
the stream does not have, and what is handed over as a tree may hold nodes of another making.
-/

namespace JavaText

/-- A tree as a parser made it. -/
inductive ParseTree
  /-- The token at a place of the stream; a place after all tokens is the end mark. -/
  | terminal (place : Nat)
  /-- A token that the stream does not have. -/
  | missing (t : SourceToken)
  /-- A rule of the grammar by its number, under the name of its type of node. -/
  | rule (number : Int) (nodeType : Text) (children : List ParseTree)
  /-- A node of a type that parsers do not make. -/
  | foreign (nodeType : Text)
  deriving Repr

namespace ParseTree

mutual

/-- The places of the terminals of a tree from left to right. -/
def places : ParseTree → List Nat
  | terminal place => [place]
  | missing _ => []
  | rule _ _ ts => placesOf ts
  | foreign _ => []

/-- The places of the terminals of several trees from left to right. -/
def placesOf : List ParseTree → List Nat
  | [] => []
  | t :: ts => places t ++ placesOf ts

end

end ParseTree

end JavaText
