import JavaText.Tree.Basic

/-!
# Spacing rules

Where the canonical text of a tree has spaces and line breaks. What stands around a token is
decided by its kind and by three facts about its place: the kind of its parent, the kind of its
grandparent, and whether it is inside an annotation or an array initializer, where braces do not
break lines.
-/

namespace JavaText

/-! ## Tables -/

namespace Spacing

/-- Symbols that take no space on either side. -/
def noSpaceAround : List Symbol :=
  [.assign, .less, .greater, .dot, .comma, .rightBracket, .leftBracket, .leftParen, .rightParen,
    .semicolon, .doubleColon]

/-- Symbols that take no space after them. -/
def noSpaceAfter : List Symbol :=
  [.atSign, .leftBrace, .rightBrace, .exclamation]

/-- Symbols that take no space before them. -/
def noSpaceBefore : List Symbol :=
  [.ellipsis]

/-- Symbols that end the line. -/
def endLineAfter : List Symbol :=
  [.leftBrace, .rightBrace, .semicolon]

/-- Symbols that take no space before them inside annotations and array initializers. -/
def annotatedNoSpaceBefore : List Symbol :=
  [.ellipsis, .rightBrace]

/-- Symbols that end the line inside annotations and array initializers. -/
def annotatedEndLineAfter : List Symbol :=
  [.semicolon]

/-- The two symbols of a conditional expression. -/
def conditionalSymbols : List Symbol :=
  [.question, .colon]

/-- The operators that stand between operands. -/
def infixOperators : List Symbol :=
  [.asterisk, .slash, .percent, .plus, .minus, .shiftLeft, .shiftRight, .shiftRightUnsigned,
    .less, .greater, .lessEqual, .greaterEqual, .equal, .notEqual, .caret, .ampersand, .bar,
    .andAnd, .orOr]

/-- The constructs inside which braces do not break lines. -/
def annotatingConstructs : List ConstructKind :=
  [.annotationUse, .arrayInitializerExpression]

/-- The constructs whose operators stand between operands. -/
def infixConstructs : List ConstructKind :=
  [.binaryExpression, .polyadicExpression]

end Spacing

/-! ## The place of a token -/

/-- What the spacing of a token depends on besides its own kind. -/
structure Surroundings where
  /-- The kind of the parent, if there is one and it has a kind. -/
  parent : Option Kind
  /-- The kind of the grandparent, if there is one and it has a kind. -/
  grandparent : Option Kind
  /-- Whether an annotation or an array initializer is somewhere above. -/
  annotated : Bool
  deriving DecidableEq, Repr

namespace Surroundings

/-- The place of a tree with nothing above it. -/
def outermost : Surroundings :=
  { parent := none, grandparent := none, annotated := false }

/-- The place of the children of a construct that is itself in the given place. -/
def enter (s : Surroundings) (kind : Option Kind) : Surroundings :=
  { parent := kind
    grandparent := s.parent
    annotated := s.annotated || Kind.isOneOfConstructs Spacing.annotatingConstructs kind }

/-- The place below a chain of constructs, the nearest first. -/
def ofAncestors : List (Option Kind) → Surroundings
  | [] => outermost
  | kind :: above => (ofAncestors above).enter kind

end Surroundings

/-! ## The rules -/

namespace Spacing

/-- A question mark or colon of a conditional expression. -/
def isConditionalMark (s : Surroundings) (kind : Option Kind) : Bool :=
  Kind.isOneOf conditionalSymbols kind
    && s.parent == some (.construct .conditionalExpression)

/-- An operator between the operands of an infix expression. -/
def isInfixOperator (s : Surroundings) (kind : Option Kind) : Bool :=
  Kind.isOneOf infixOperators kind && Kind.isOneOfConstructs infixConstructs s.parent

/-- The name of a method in its declaration. -/
def isMethodName (s : Surroundings) (kind : Option Kind) : Bool :=
  kind == some (.token .identifier) && s.parent == some (.construct .method)

/-- The name of a local variable in its declaration. -/
def isVariableName (s : Surroundings) (kind : Option Kind) : Bool :=
  kind == some (.token .identifier)
    && s.parent == some (.construct .localVariable)
    && s.grandparent == some (.construct .declarationStatement)

/-- Whether a token accepts a space that the token before it asks for. -/
def acceptsSpaceBefore (s : Surroundings) (kind : Option Kind) : Bool :=
  !Kind.isOneOf noSpaceAround kind
    && !Kind.isOneOf (if s.annotated then annotatedNoSpaceBefore else noSpaceBefore) kind

/-- Whether a token has a space before it whatever stands there. -/
def demandsSpaceBefore (s : Surroundings) (kind : Option Kind) : Bool :=
  isConditionalMark s kind || isVariableName s kind || isMethodName s kind
    || isInfixOperator s kind

/-- Whether a token asks for a space after it. -/
def asksSpaceAfter (s : Surroundings) (kind : Option Kind) : Bool :=
  (!Kind.isOneOf noSpaceAround kind && !Kind.isOneOf noSpaceAfter kind) || isInfixOperator s kind

/-- Whether a token ends the line. -/
def endsLine (s : Surroundings) (kind : Option Kind) : Bool :=
  Kind.isOneOf (if s.annotated then annotatedEndLineAfter else endLineAfter) kind

end Spacing

end JavaText
