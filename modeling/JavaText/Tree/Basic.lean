import JavaText.Kind.Basic

/-!
# Syntax trees

A syntax tree has tokens at its leaves and constructs above them. Kinds and texts may be missing,
since a tree can be imported from a grammar that leaves them open. `Tree.tokens` is the view of a
tree as the sequence of its tokens and `Tree.text` the raw source text they add up to;
`Tree.same` decides equality.
-/

namespace JavaText

/-- A token: its kind and its text, each of which may be missing. -/
structure Token where
  /-- The kind of the token. -/
  kind : Option Kind
  /-- The text of the token. -/
  text : Option Text
  deriving DecidableEq, Repr

/-- A syntax tree. -/
inductive Tree
  | token (t : Token)
  | construct (kind : Option Kind) (children : List Tree)
  deriving Repr

namespace Token

/-- The raw text of a token; a missing text adds nothing. -/
def rawText (t : Token) : Text :=
  t.text.getD []

/-- Whether a token shows in the canonical text: it is no trivia and its text is not empty. -/
def isVisible (t : Token) : Bool :=
  !Kind.isTrivia t.kind && !t.rawText.isEmpty

end Token

namespace Tree

/-- The kind at the root. -/
def kind : Tree → Option Kind
  | token t => t.kind
  | construct k _ => k

/-- The children of the root. -/
def children : Tree → List Tree
  | token _ => []
  | construct _ ts => ts

mutual

/-- The tokens of a tree from left to right. -/
def tokens : Tree → List Token
  | token t => [t]
  | construct _ ts => tokensOf ts

/-- The tokens of several trees from left to right. -/
def tokensOf : List Tree → List Token
  | [] => []
  | t :: ts => tokens t ++ tokensOf ts

end

/-- The raw source text of a tree, trivia included. -/
def text (t : Tree) : Text :=
  t.tokens.flatMap Token.rawText

mutual

/-- Whether two trees are equal. -/
def same : Tree → Tree → Bool
  | token t, token u => t == u
  | construct k ts, construct l us => k == l && sameAll ts us
  | _, _ => false

/-- Whether two lists of trees are equal. -/
def sameAll : List Tree → List Tree → Bool
  | [], [] => true
  | t :: ts, u :: us => same t u && sameAll ts us
  | _, _ => false

end

mutual

theorem same_iff : ∀ t u : Tree, same t u = true ↔ t = u
  | token t, token u => by simp [same]
  | construct k ts, construct l us => by simp [same, sameAll_iff ts us]
  | token _, construct _ _ => by simp [same]
  | construct _ _, token _ => by simp [same]

theorem sameAll_iff : ∀ ts us : List Tree, sameAll ts us = true ↔ ts = us
  | [], [] => by simp [sameAll]
  | [], _ :: _ => by simp [sameAll]
  | _ :: _, [] => by simp [sameAll]
  | t :: ts, u :: us => by simp [sameAll, same_iff t u, sameAll_iff ts us]

end

instance : DecidableEq Tree := fun t u =>
  decidable_of_iff (same t u = true) (same_iff t u)

end Tree

end JavaText
