import JavaText.Kind.Construct
import JavaText.Kind.Token
import JavaText.Text.Quoted

/-!
# Kinds of nodes

A node of a tree is labelled by a kind of token, by a kind of construct, or by a plain name that
is neither. A plain name may be spelled like a kind; it is still a different label.
-/

namespace JavaText

/-- The label of a node. -/
inductive Kind
  | token (k : TokenKind)
  | construct (k : ConstructKind)
  | plain (name : Text)
  deriving DecidableEq, Repr

namespace Kind

/-- The name of a label, by which files and listings refer to it. -/
def name : Kind → Text
  | token k => k.name
  | construct k => k.name
  | plain n => n

/-- The label that a name stands for on a token: a kind of token if there is one of that name. -/
def ofTokenName (name : Text) : Kind :=
  match TokenKind.ofName? name with
  | some k => token k
  | none => plain name

/-- The label that a name stands for on a composite node: a kind of construct if there is one of
that name. -/
def ofConstructName (name : Text) : Kind :=
  match ConstructKind.ofName? name with
  | some k => construct k
  | none => plain name

/-- A label as messages show it: a kind with its family, a plain name in quotes. -/
def describe : Kind → Text
  | token k => Text.ofString "TokenKind." ++ k.name
  | construct k => Text.ofString "ConstructKind." ++ k.name
  | plain n => n.quoted

/-- A label that may be missing, as messages show it. -/
def describe? : Option Kind → Text
  | some k => k.describe
  | none => "None"

/-- A name that may be missing, as listings show it. -/
def name? : Option Kind → Text
  | some k => k.name
  | none => "None"

/-- Whether a label is one of trivia. -/
def isTrivia : Option Kind → Bool
  | some (.token k) => k.isTrivia
  | _ => false

/-- Whether a label is one of the given symbols. -/
def isOneOf (symbols : List Symbol) : Option Kind → Bool
  | some (.token (.symbol s)) => symbols.contains s
  | _ => false

/-- Whether a label is one of the given constructs. -/
def isOneOfConstructs (constructs : List ConstructKind) : Option Kind → Bool
  | some (.construct k) => constructs.contains k
  | _ => false

end Kind

end JavaText
