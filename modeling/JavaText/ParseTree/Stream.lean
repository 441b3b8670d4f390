import JavaText.Text.Basic

/-!
# Token streams

A token stream holds the tokens that a lexer made of a source text, in order. The tokens on the
main channel are those that the parser reads; all others, such as white space and comments, are
hidden. After the last token comes the end mark, which is on the main channel too. A token that is
itself an end mark ends the stream early: what comes after it is not part of the stream.
`TokenStream.hiddenBefore` and `TokenStream.hiddenAfter` give the hidden tokens around a place.
-/

namespace JavaText

/-- A token as the lexer made it. -/
structure SourceToken where
  /-- The number of the token's name in the grammar. -/
  number : Int
  /-- The text of the token, if it has one. -/
  text : Option Text
  /-- The channel that the token is on. -/
  channel : Int
  deriving DecidableEq, Repr

namespace SourceToken

/-- The number that stands for the end of the source text. -/
def endNumber : Int := -1

/-- Whether a token is the end mark, which has no place in a tree. -/
def isEnd (t : SourceToken) : Bool :=
  t.number == endNumber

/-- Whether the parser does not see a token. -/
def isHidden (t : SourceToken) : Bool :=
  t.channel != 0

end SourceToken

/-- The tokens of a source text in order, without the end mark after all of them. -/
structure TokenStream where
  /-- The tokens, those after an early end mark included. -/
  tokens : List SourceToken
  deriving DecidableEq, Repr

namespace TokenStream

/-- The place of the first end mark, which is the last place of the stream. -/
def last (s : TokenStream) : Nat :=
  (s.tokens.takeWhile fun t => !t.isEnd).length

/-- The tokens of the stream with their places, an early end mark included. -/
def numbered (s : TokenStream) : List (SourceToken × Nat) :=
  (s.tokens.take (s.last + 1)).zipIdx

/-- The hidden tokens directly before a place, in the order of the stream. -/
def hiddenBefore (s : TokenStream) (place : Nat) : List (SourceToken × Nat) :=
  ((s.numbered.take place).reverse.takeWhile fun t => t.1.isHidden).reverse

/-- The hidden tokens directly after a place, in the order of the stream. -/
def hiddenAfter (s : TokenStream) (place : Nat) : List (SourceToken × Nat) :=
  (s.numbered.drop (place + 1)).takeWhile fun t => t.1.isHidden

end TokenStream

end JavaText
