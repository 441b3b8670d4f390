import JavaText.Text.Basic

/-!
# Kinds of tokens

A token of a Java syntax tree is trivia (what the reader of a program skips), an identifier, a
literal, a keyword or a symbol. Keywords and symbols always have the same text; the others vary.
Every kind has a name, and `TokenKind.all` lists the kinds in the order in which the names are
published.
-/

namespace JavaText

/-! ## Trivia and literals -/

/-- Text between tokens: white space and comments. -/
inductive Trivia
  | whiteSpace
  | blockComment
  | lineComment
  | docComment
  deriving DecidableEq, Repr

/-- Literals, told apart by their spelling. -/
inductive Literal
  | integer
  | long
  | float
  | double
  | character
  | string
  | textBlock
  deriving DecidableEq, Repr

namespace Trivia

/-- The published name of a kind of trivia. -/
def name : Trivia → Text
  | whiteSpace => "WHITE_SPACE"
  | blockComment => "C_STYLE_COMMENT"
  | lineComment => "END_OF_LINE_COMMENT"
  | docComment => "DOC_COMMENT"

/-- All kinds of trivia, in published order. -/
def all : List Trivia :=
  [whiteSpace, blockComment, lineComment, docComment]

end Trivia

namespace Literal

/-- The published name of a kind of literal. -/
def name : Literal → Text
  | integer => "INTEGER_LITERAL"
  | long => "LONG_LITERAL"
  | float => "FLOAT_LITERAL"
  | double => "DOUBLE_LITERAL"
  | character => "CHARACTER_LITERAL"
  | string => "STRING_LITERAL"
  | textBlock => "TEXT_BLOCK_LITERAL"

/-- All kinds of literals, in published order. -/
def all : List Literal :=
  [integer, long, float, double, character, string, textBlock]

end Literal

/-! ## Keywords -/

/-- The words that a Java program cannot use as names in every place. -/
inductive Keyword
  | abstractKw
  | assertKw
  | booleanKw
  | breakKw
  | byteKw
  | caseKw
  | catchKw
  | charKw
  | classKw
  | constKw
  | continueKw
  | defaultKw
  | doKw
  | doubleKw
  | elseKw
  | enumKw
  | extendsKw
  | falseKw
  | finalKw
  | finallyKw
  | floatKw
  | forKw
  | gotoKw
  | ifKw
  | implementsKw
  | importKw
  | instanceofKw
  | intKw
  | interfaceKw
  | longKw
  | nativeKw
  | newKw
  | nullKw
  | packageKw
  | privateKw
  | protectedKw
  | publicKw
  | recordKw
  | returnKw
  | shortKw
  | staticKw
  | strictfpKw
  | superKw
  | switchKw
  | synchronizedKw
  | thisKw
  | throwKw
  | throwsKw
  | transientKw
  | trueKw
  | tryKw
  | varKw
  | voidKw
  | volatileKw
  | whileKw
  | yieldKw
  deriving DecidableEq, Repr

namespace Keyword

/-- The word itself. -/
def word : Keyword → Text
  | abstractKw => "abstract"
  | assertKw => "assert"
  | booleanKw => "boolean"
  | breakKw => "break"
  | byteKw => "byte"
  | caseKw => "case"
  | catchKw => "catch"
  | charKw => "char"
  | classKw => "class"
  | constKw => "const"
  | continueKw => "continue"
  | defaultKw => "default"
  | doKw => "do"
  | doubleKw => "double"
  | elseKw => "else"
  | enumKw => "enum"
  | extendsKw => "extends"
  | falseKw => "false"
  | finalKw => "final"
  | finallyKw => "finally"
  | floatKw => "float"
  | forKw => "for"
  | gotoKw => "goto"
  | ifKw => "if"
  | implementsKw => "implements"
  | importKw => "import"
  | instanceofKw => "instanceof"
  | intKw => "int"
  | interfaceKw => "interface"
  | longKw => "long"
  | nativeKw => "native"
  | newKw => "new"
  | nullKw => "null"
  | packageKw => "package"
  | privateKw => "private"
  | protectedKw => "protected"
  | publicKw => "public"
  | recordKw => "record"
  | returnKw => "return"
  | shortKw => "short"
  | staticKw => "static"
  | strictfpKw => "strictfp"
  | superKw => "super"
  | switchKw => "switch"
  | synchronizedKw => "synchronized"
  | thisKw => "this"
  | throwKw => "throw"
  | throwsKw => "throws"
  | transientKw => "transient"
  | trueKw => "true"
  | tryKw => "try"
  | varKw => "var"
  | voidKw => "void"
  | volatileKw => "volatile"
  | whileKw => "while"
  | yieldKw => "yield"

/-- The published name of a keyword: the word in capitals and a suffix. -/
def name (k : Keyword) : Text :=
  k.word.asciiUpper ++ Text.ofString "_KEYWORD"

/-- All keywords, in published order. -/
def all : List Keyword := [
    abstractKw, assertKw, booleanKw, breakKw, byteKw, caseKw, catchKw, charKw, classKw, constKw,
    continueKw, defaultKw, doKw, doubleKw, elseKw, enumKw, extendsKw, falseKw, finalKw, finallyKw,
    floatKw, forKw, gotoKw, ifKw, implementsKw, importKw, instanceofKw, intKw, interfaceKw,
    longKw, nativeKw, newKw, nullKw, packageKw, privateKw, protectedKw, publicKw, recordKw,
    returnKw, shortKw, staticKw, strictfpKw, superKw, switchKw, synchronizedKw, thisKw, throwKw,
    throwsKw, transientKw, trueKw, tryKw, varKw, voidKw, volatileKw, whileKw, yieldKw]

end Keyword

/-! ## Separators and operators -/

/-- The separators and operators. -/
inductive Symbol
  | leftParen
  | rightParen
  | leftBrace
  | rightBrace
  | leftBracket
  | rightBracket
  | semicolon
  | comma
  | dot
  | ellipsis
  | atSign
  | doubleColon
  | arrow
  | assign
  | equal
  | notEqual
  | exclamation
  | tilde
  | question
  | colon
  | less
  | greater
  | lessEqual
  | greaterEqual
  | andAnd
  | orOr
  | increment
  | decrement
  | plus
  | minus
  | asterisk
  | slash
  | percent
  | ampersand
  | bar
  | caret
  | shiftLeft
  | shiftRight
  | shiftRightUnsigned
  | plusAssign
  | minusAssign
  | asteriskAssign
  | slashAssign
  | percentAssign
  | ampersandAssign
  | barAssign
  | caretAssign
  | shiftLeftAssign
  | shiftRightAssign
  | shiftRightUnsignedAssign
  deriving DecidableEq, Repr

namespace Symbol

/-- The text of a symbol. -/
def text : Symbol → Text
  | leftParen => "("
  | rightParen => ")"
  | leftBrace => "\x7b"
  | rightBrace => "\x7d"
  | leftBracket => "["
  | rightBracket => "]"
  | semicolon => ";"
  | comma => ","
  | dot => "."
  | ellipsis => "..."
  | atSign => "@"
  | doubleColon => "::"
  | arrow => "->"
  | assign => "="
  | equal => "=="
  | notEqual => "!="
  | exclamation => "!"
  | tilde => "~"
  | question => "?"
  | colon => ":"
  | less => "<"
  | greater => ">"
  | lessEqual => "<="
  | greaterEqual => ">="
  | andAnd => "&&"
  | orOr => "||"
  | increment => "++"
  | decrement => "--"
  | plus => "+"
  | minus => "-"
  | asterisk => "*"
  | slash => "/"
  | percent => "%"
  | ampersand => "&"
  | bar => "|"
  | caret => "^"
  | shiftLeft => "<<"
  | shiftRight => ">>"
  | shiftRightUnsigned => ">>>"
  | plusAssign => "+="
  | minusAssign => "-="
  | asteriskAssign => "*="
  | slashAssign => "/="
  | percentAssign => "%="
  | ampersandAssign => "&="
  | barAssign => "|="
  | caretAssign => "^="
  | shiftLeftAssign => "<<="
  | shiftRightAssign => ">>="
  | shiftRightUnsignedAssign => ">>>="

/-- The published name of a symbol. -/
def name : Symbol → Text
  | leftParen => "LPARENTH"
  | rightParen => "RPARENTH"
  | leftBrace => "LBRACE"
  | rightBrace => "RBRACE"
  | leftBracket => "LBRACKET"
  | rightBracket => "RBRACKET"
  | semicolon => "SEMICOLON"
  | comma => "COMMA"
  | dot => "DOT"
  | ellipsis => "ELLIPSIS"
  | atSign => "AT"
  | doubleColon => "DOUBLE_COLON"
  | arrow => "ARROW"
  | assign => "EQ"
  | equal => "EQEQ"
  | notEqual => "NE"
  | exclamation => "EXCL"
  | tilde => "TILDE"
  | question => "QUEST"
  | colon => "COLON"
  | less => "LT"
  | greater => "GT"
  | lessEqual => "LE"
  | greaterEqual => "GE"
  | andAnd => "ANDAND"
  | orOr => "OROR"
  | increment => "PLUSPLUS"
  | decrement => "MINUSMINUS"
  | plus => "PLUS"
  | minus => "MINUS"
  | asterisk => "ASTERISK"
  | slash => "DIV"
  | percent => "PERC"
  | ampersand => "AND"
  | bar => "OR"
  | caret => "XOR"
  | shiftLeft => "LTLT"
  | shiftRight => "GTGT"
  | shiftRightUnsigned => "GTGTGT"
  | plusAssign => "PLUSEQ"
  | minusAssign => "MINUSEQ"
  | asteriskAssign => "ASTERISKEQ"
  | slashAssign => "DIVEQ"
  | percentAssign => "PERCEQ"
  | ampersandAssign => "ANDEQ"
  | barAssign => "OREQ"
  | caretAssign => "XOREQ"
  | shiftLeftAssign => "LTLTEQ"
  | shiftRightAssign => "GTGTEQ"
  | shiftRightUnsignedAssign => "GTGTGTEQ"

/-- All symbols, in published order. -/
def all : List Symbol := [
    leftParen, rightParen, leftBrace, rightBrace, leftBracket, rightBracket, semicolon, comma,
    dot, ellipsis, atSign, doubleColon, arrow, assign, equal, notEqual, exclamation, tilde,
    question, colon, less, greater, lessEqual, greaterEqual, andAnd, orOr, increment, decrement,
    plus, minus, asterisk, slash, percent, ampersand, bar, caret, shiftLeft, shiftRight,
    shiftRightUnsigned, plusAssign, minusAssign, asteriskAssign, slashAssign, percentAssign,
    ampersandAssign, barAssign, caretAssign, shiftLeftAssign, shiftRightAssign,
    shiftRightUnsignedAssign]

end Symbol

/-! ## All kinds of tokens -/

/-- The kind of a token. -/
inductive TokenKind
  | trivia (t : Trivia)
  | identifier
  | literal (l : Literal)
  | keyword (k : Keyword)
  | symbol (s : Symbol)
  deriving DecidableEq, Repr

namespace TokenKind

/-- The published name of a kind. -/
def name : TokenKind → Text
  | trivia t => t.name
  | identifier => "IDENTIFIER"
  | literal l => l.name
  | keyword k => k.name
  | symbol s => s.name

/-- All kinds of tokens, in published order. -/
def all : List TokenKind :=
  Trivia.all.map trivia ++ [identifier] ++ Literal.all.map literal
    ++ Keyword.all.map keyword ++ Symbol.all.map symbol

/-- The names of all kinds of tokens. -/
def directory : List (Text × TokenKind) :=
  all.map fun k => (k.name, k)

/-- The kind with the given name. -/
def ofName? (name : Text) : Option TokenKind :=
  directory.lookup name

/-- The text of a kind whose tokens all have the same text. -/
def fixedText? : TokenKind → Option Text
  | keyword k => some k.word
  | symbol s => some s.text
  | _ => none

/-- The texts of the kinds whose tokens all have the same text. -/
def fixedTexts : List (Text × TokenKind) :=
  Symbol.all.map (fun s => (s.text, symbol s)) ++ Keyword.all.map (fun k => (k.word, keyword k))

/-- Whether tokens of this kind are trivia. -/
def isTrivia : TokenKind → Bool
  | trivia _ => true
  | _ => false

end TokenKind

end JavaText
