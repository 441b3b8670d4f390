import JavaText.Kind.Basic
import JavaText.Lexeme
import JavaText.ParseTree.Stream
import JavaText.Text.Case

/-!
# From the names of a grammar to kinds

A grammar names its rules and its tokens. A naming says which kind a name stands for, or that the
nodes of a rule are left out and their children move up. Where a naming says nothing, a rule is
looked up among the construct names, and a token among the keywords and then by its text. A name
that leads nowhere is kept as it is.
-/

namespace JavaText

/-! ## Grammars -/

/-- The names that a grammar gives to its rules and tokens, by number. -/
structure Grammar where
  /-- The names of the rules. -/
  ruleNames : List Text
  /-- The names of the tokens. -/
  tokenNames : List Text
  deriving DecidableEq, Repr

namespace Grammar

/-- The name of a rule. A negative number counts from the end of the list. -/
def ruleName? (g : Grammar) (number : Int) : Option Text :=
  if 0 ≤ number then g.ruleNames[number.toNat]?
  else
    let place := number + g.ruleNames.length
    if 0 ≤ place then g.ruleNames[place.toNat]? else none

/-- The name of the tokens that have no number in the grammar. -/
def invalidName : Text := "<INVALID>"

/-- The name of a token. -/
def tokenName (g : Grammar) (number : Int) : Text :=
  if 0 ≤ number then g.tokenNames[number.toNat]?.getD invalidName else invalidName

/-- How the types of rule nodes end. -/
def nodeTypeSuffix : Text := "Context"

/-- The name of the labelled alternative of a rule that a type of node belongs to. A type that
only repeats the name of the rule, in whatever case, has none. -/
def alternative? (ruleName nodeType : Text) : Option Text :=
  if nodeType.endsWith nodeTypeSuffix then
    match nodeType.take (nodeType.length - nodeTypeSuffix.length) with
    | [] => none
    | c :: rest =>
      if Text.lower (c :: rest) = ruleName.lower then none else some (c.lower ++ rest)
  else none

/-- The names under which a rule node is looked up, in order. -/
def ruleCandidates (ruleName nodeType : Text) : List Text :=
  (alternative? ruleName nodeType).toList ++ [ruleName]

end Grammar

/-! ## Labels -/

/-- What a look-up finds. -/
inductive Label
  /-- A kind, or the word that there is none. -/
  | known (kind : Option Kind)
  /-- Nothing, so that the name stays. -/
  | unknown (name : Text)
  deriving DecidableEq, Repr

namespace Label

/-- The kind of a node with a label. -/
def kind : Label → Option Kind
  | known k => k
  | unknown name => some (.plain name)

/-- The name that led nowhere, if it did. -/
def unknown? : Label → Option Text
  | known _ => none
  | unknown name => some name

end Label

/-! ## Namings -/

/-- The kinds of rules and of tokens by their names in the grammar. -/
structure Naming where
  /-- The kinds of rules; a rule without a kind leaves its children to the node above. -/
  rules : List (Text × Option Kind)
  /-- The kinds of tokens. -/
  tokens : List (Text × Option Kind)
  deriving DecidableEq, Repr

namespace Naming

/-- The kind of a rule by one of its names: the naming first, then the construct of that name. -/
def ofRuleName? (n : Naming) (name : Text) : Option (Option Kind) :=
  match n.rules.lookup name with
  | some k => some k
  | none => (ConstructKind.ofName? name.upperSnake).map fun k => some (.construct k)

/-- The label of a rule node. -/
def ruleLabel (n : Naming) (ruleName nodeType : Text) : Label :=
  match (Grammar.ruleCandidates ruleName nodeType).findSome? n.ofRuleName? with
  | some k => .known k
  | none => .unknown ruleName

/-- The name that a keyword has if the grammar calls it by the given name. -/
def keywordName (name : Text) : Text :=
  name ++ Text.ofString "_KEYWORD"

/-- The kind of a token by its name: the naming first, then the keyword of that name. -/
def ofTokenName? (n : Naming) (name : Text) : Option (Option Kind) :=
  match n.tokens.lookup name with
  | some k => some k
  | none => (TokenKind.ofName? (keywordName name)).map fun k => some (.token k)

/-- The label of a token with the given name and text. A token that only its text could classify
has none if the text is missing. -/
def tokenLabel? (n : Naming) (name : Text) (text : Option Text) : Option Label :=
  match n.ofTokenName? name, text with
  | some k, _ => some (.known k)
  | none, none => none
  | none, some t =>
    match TokenKind.ofText? t with
    | some k => some (.known (some (.token k)))
    | none => some (.unknown name)

end Naming

end JavaText
