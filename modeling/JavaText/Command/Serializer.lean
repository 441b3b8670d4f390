import JavaText.Command.Settings
import JavaText.Lambda

/-!
# Serializers

What makes a text of a tree is chosen by a name with dots: the part before the last dot names a
module and the rest one of its members. The modules are those of the package and the one of the
basic functions, of which two can be named. A name may also choose a member that makes no text; that
shows only when it is put to a tree.
-/

namespace JavaText

/-- What a name can choose. -/
inductive Serializer
  /-- The canonical text. -/
  | canonical
  /-- The raw text. -/
  | raw
  /-- The view of a tree as a lambda, which is no text. -/
  | lambdaView
  /-- The same for every tree, and no text. -/
  | constant
  /-- Something of its own for every tree, and no text. -/
  | distinct
  /-- What cannot be put to a tree. -/
  | unsuited
  /-- A module, which cannot be put to a tree and does not leave the process that it is in. -/
  | wholeModule
  deriving DecidableEq, Repr

/-- What comes of a tree. -/
inductive Product
  | text (t : Text)
  /-- The same for every tree, and no text. -/
  | constant
  /-- Something of its own for every tree, and no text. -/
  | distinct
  deriving DecidableEq, Repr

/-- Why nothing comes of a tree. -/
inductive SerializerError
  | unsuited
  /-- There is no view of the tree as a lambda. -/
  | noLambda (e : LambdaError)
  deriving DecidableEq, Repr

/-- Why a name chooses nothing. -/
inductive ReferenceError
  /-- The name has no part for a module. -/
  | noModule
  /-- The module is given relative to one that is not known. -/
  | relative
  /-- There is no such module. -/
  | unknownModule
  /-- The module has no such member. -/
  | unknownMember
  deriving DecidableEq, Repr

/-- The message about a name without a module. -/
def ReferenceError.noModuleMessage : Text := "Empty module name"

namespace Serializer

/-- What comes of a tree. -/
def apply (s : Serializer) (t : Tree) : Except SerializerError Product :=
  match s with
  | canonical => .ok (.text t.canonical)
  | raw => .ok (.text t.text)
  | lambdaView =>
    match (Focus.whole t).lambda with
    | .ok _ => .ok .distinct
    | .error e => .error (.noLambda e)
  | constant => .ok .constant
  | distinct => .ok .distinct
  | unsuited | wholeModule => .error .unsuited

/-! ## Names -/

/-- What the members of the package are good for, by their names. Those that are not listed here
cannot be put to a tree. -/
def uses : List (String × Serializer) :=
  [("canonical_serializer", canonical), ("LambdaExpression", lambdaView), ("fixed_text", constant),
    ("kind_name", distinct), ("AntlrTreeBuilder", distinct), ("JsonTreeCodec", distinct)]

/-- A module of the package. -/
structure PackageModule where
  /-- The name of the module below the package, with a dot before each part. -/
  path : String
  /-- The modules that are members of the module. -/
  modules : List String
  /-- The other members of the module. -/
  members : List String
  deriving DecidableEq, Repr

/-- The names for kinds that most modules share. -/
def kindNames : List String := ["ConstructKind", "TokenKind", "TRIVIA"]

/-- The names for nodes. -/
def nodeNames : List String := ["LexerRule", "ParserRule", "Rule"]

/-- The names for questions about kinds. -/
def kindQuestions : List String := ["fixed_text", "kind_from_name", "kind_name", "token_kind"]

/-- The names for ways to store trees. -/
def codecNames : List String := ["JsonTreeCodec", "PickleTreeCodec", "TreeCodec"]

/-- The names for the import of parse trees. -/
def importNames : List String :=
  ["AntlrTreeBuilder", "JAVA_LEXER_TOKEN_KINDS", "JAVA_PARSER_RULE_KINDS"]

/-- The modules of the package. -/
def packageModules : List PackageModule :=
  [ ⟨"", ["cli", "compare", "pkgdata", "runtime", "serialize", "tool"],
      ["canonical_serializer", "__version__"]⟩,
    ⟨".runtime", ["kinds", "lambda_expression", "rule", "serializer"],
      ["canonical_serializer", "LambdaExpression"] ++ kindNames ++ kindQuestions ++ nodeNames⟩,
    ⟨".runtime.kinds", [], kindNames ++ kindQuestions⟩,
    ⟨".runtime.lambda_expression", [],
      ["canonical_serializer", "LambdaExpression", "LexerRule", "ParserRule"] ++ kindNames⟩,
    ⟨".runtime.rule", [], "kind_name" :: nodeNames⟩,
    ⟨".runtime.serializer", [], ["canonical_serializer", "Rule"] ++ kindNames⟩,
    ⟨".tool", ["antlr_tree", "tree_codec"], importNames ++ codecNames⟩,
    ⟨".tool.antlr_tree", [],
      ["ConstructKind", "LexerRule", "ParserRule", "TokenKind", "token_kind"] ++ importNames⟩,
    ⟨".tool.tree_codec", [],
      ["ConstructKind", "TokenKind", "kind_from_name", "kind_name"] ++ nodeNames ++ codecNames⟩,
    ⟨".cli", [], ["JsonTreeCodec", "PickleTreeCodec"]⟩,
    ⟨".serialize", [], ["serialize", "execute", "Rule", "TreeCodec", "__version__"]⟩,
    ⟨".compare", [], ["compare", "execute", "__version__"]⟩,
    ⟨".pkgdata", [], ["__version__"]⟩]

/-- The member of a module of the package. -/
def PackageModule.member? (m : PackageModule) (name : Text) : Option Serializer :=
  if m.modules.any fun n => Text.ofString n == name then some wholeModule
  else (m.members.find? fun n => Text.ofString n == name).map fun n =>
    (uses.lookup n).getD unsuited

/-- The members of the module of basic functions: the text of a tree, and the number of its
elements, which a tree does not have. -/
def basicMember? (name : Text) : Option Serializer :=
  ([("str", raw), ("len", unsuited)] : List (Text × Serializer)).lookup name

/-- What the module of a name gives for the name of a member, if there is such a module. -/
def membersOf? (name : Text) : Option (Text → Option Serializer) :=
  if name = Text.ofString "builtins" then some basicMember?
  else (packageModules.find? fun m => Tool.package ++ Text.ofString m.path == name).map
    PackageModule.member?

/-- What a name chooses. -/
def ofName (name : Text) : Except ReferenceError Serializer :=
  let parts := name.splitAt (CodePoint.ofChar '.')
  let moduleName := Text.join "." parts.dropLast
  let member := parts.getLast?.getD []
  if moduleName.isEmpty then .error .noModule
  else if moduleName.startsWith "." then .error .relative
  else match membersOf? moduleName with
    | none => .error .unknownModule
    | some members =>
      match members member with
      | none => .error .unknownMember
      | some s => .ok s

end Serializer

end JavaText
