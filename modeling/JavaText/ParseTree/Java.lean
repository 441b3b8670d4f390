import JavaText.ParseTree.Naming

/-!
# A naming for a Java grammar

The names of the common Java grammar that are spelled otherwise than the kinds here. Keywords go by
their names and literals by their texts, so they need no entry. Rules that only group their parts
have no kind: names and operands become direct children of the construct they belong to.
-/

namespace JavaText

namespace Naming

/-- The tokens whose names differ from those of their kinds. -/
def javaTokenKinds : List (String × TokenKind) := [
  ("IDENTIFIER", .identifier),
  ("LPAREN", .symbol .leftParen),
  ("RPAREN", .symbol .rightParen),
  ("LBRACE", .symbol .leftBrace),
  ("RBRACE", .symbol .rightBrace),
  ("LBRACK", .symbol .leftBracket),
  ("RBRACK", .symbol .rightBracket),
  ("SEMI", .symbol .semicolon),
  ("COMMA", .symbol .comma),
  ("DOT", .symbol .dot),
  ("ASSIGN", .symbol .assign),
  ("GT", .symbol .greater),
  ("LT", .symbol .less),
  ("BANG", .symbol .exclamation),
  ("TILDE", .symbol .tilde),
  ("QUESTION", .symbol .question),
  ("COLON", .symbol .colon),
  ("EQUAL", .symbol .equal),
  ("LE", .symbol .lessEqual),
  ("GE", .symbol .greaterEqual),
  ("NOTEQUAL", .symbol .notEqual),
  ("AND", .symbol .andAnd),
  ("OR", .symbol .orOr),
  ("INC", .symbol .increment),
  ("DEC", .symbol .decrement),
  ("ADD", .symbol .plus),
  ("SUB", .symbol .minus),
  ("MUL", .symbol .asterisk),
  ("DIV", .symbol .slash),
  ("BITAND", .symbol .ampersand),
  ("BITOR", .symbol .bar),
  ("CARET", .symbol .caret),
  ("MOD", .symbol .percent),
  ("ADD_ASSIGN", .symbol .plusAssign),
  ("SUB_ASSIGN", .symbol .minusAssign),
  ("MUL_ASSIGN", .symbol .asteriskAssign),
  ("DIV_ASSIGN", .symbol .slashAssign),
  ("AND_ASSIGN", .symbol .ampersandAssign),
  ("OR_ASSIGN", .symbol .barAssign),
  ("XOR_ASSIGN", .symbol .caretAssign),
  ("MOD_ASSIGN", .symbol .percentAssign),
  ("LSHIFT_ASSIGN", .symbol .shiftLeftAssign),
  ("RSHIFT_ASSIGN", .symbol .shiftRightAssign),
  ("URSHIFT_ASSIGN", .symbol .shiftRightUnsignedAssign),
  ("ARROW", .symbol .arrow),
  ("COLONCOLON", .symbol .doubleColon),
  ("AT", .symbol .atSign),
  ("ELLIPSIS", .symbol .ellipsis),
  ("WS", .trivia .whiteSpace),
  ("COMMENT", .trivia .blockComment),
  ("LINE_COMMENT", .trivia .lineComment)]

/-- The rules and labelled alternatives whose names differ from those of their kinds. -/
def javaRuleKinds : List (String × Option ConstructKind) := [
  ("compilationUnit", some .javaFile),
  ("packageDeclaration", some .packageStatement),
  ("importDeclaration", some .importStatement),
  ("classDeclaration", some .classDeclaration),
  ("interfaceDeclaration", some .classDeclaration),
  ("enumDeclaration", some .classDeclaration),
  ("recordDeclaration", some .classDeclaration),
  ("fieldDeclaration", some .field),
  ("methodDeclaration", some .method),
  ("constructorDeclaration", some .method),
  ("interfaceCommonBodyDeclaration", some .method),
  ("methodBody", none),
  ("typeType", some .typeUse),
  ("typeTypeOrVoid", some .typeUse),
  ("typeParameters", some .typeParameterList),
  ("typeArguments", some .referenceParameterList),
  ("formalParameters", some .parameterList),
  ("formalParameterList", none),
  ("formalParameter", some .parameter),
  ("lastFormalParameter", some .parameter),
  ("identifier", none),
  ("typeIdentifier", none),
  ("elementValuePair", some .nameValuePair),
  ("elementValueArrayInitializer", some .arrayInitializerExpression),
  ("arrayInitializer", some .arrayInitializerExpression),
  ("block", some .codeBlock),
  ("localVariableDeclaration", some .localVariable),
  ("variableDeclarators", none),
  ("variableDeclarator", none),
  ("variableDeclaratorId", none),
  ("variableInitializer", none),
  ("switchLabel", some .switchLabelStatement),
  ("catchClause", some .catchSection),
  ("parExpression", some .parenthExpression),
  ("arguments", some .expressionList),
  ("methodCall", some .methodCallExpression),
  ("literal", some .literalExpression),
  ("lambdaParameters", some .parameterList),
  ("lambdaBody", none),
  ("primaryExpression", none),
  ("memberReferenceExpression", some .referenceExpression),
  ("methodCallExpression", some .methodCallExpression),
  ("squareBracketExpression", some .arrayAccessExpression),
  ("objectCreationExpression", some .newExpression),
  ("castExpression", some .typeCastExpression),
  ("postIncrementDecrementOperatorExpression", some .postfixExpression),
  ("unaryOperatorExpression", some .prefixExpression),
  ("binaryOperatorExpression", some .binaryExpression),
  ("instanceOfOperatorExpression", some .instanceOfExpression),
  ("ternaryExpression", some .conditionalExpression),
  ("expressionLambda", none),
  ("expressionSwitch", none)]

/-- The naming for the Java grammar. -/
def java : Naming :=
  { rules := javaRuleKinds.map fun (name, kind) => (name, kind.map Kind.construct)
    tokens := javaTokenKinds.map fun (name, kind) => (name, some (.token kind)) }

end Naming

end JavaText
