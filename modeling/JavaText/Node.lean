import JavaText.Json.Writer
import JavaText.Kind.Basic

/-!
# What can be asked of a node

Some analyses look at the nodes of a tree and also at nodes that are linked to one another in a
store. `NodeAccess` is all that such an analysis may ask of a node, of whatever type the nodes are:
its role, its kind, its text and its children. A node may lack what it is asked for.
-/

namespace JavaText

/-- The number of an object in its store. -/
abbrev Ref := Nat

/-- A plain value, such as a text or a number: a document holds it as it is. -/
structure Plain where
  /-- The value in a document. -/
  value : Json
  /-- It is written in ASCII, its numbers included. -/
  isAscii : ∀ c ∈ value.write, c.val < 0x80
  deriving DecidableEq, Repr

/-- What an object that is no node is: an object of some class, a plain value, a list of objects, or
a table of objects under texts. -/
inductive Outside
  | object (className : Text)
  | plain (value : Plain)
  | list (items : List Ref)
  | table (members : List (Text × Ref))
  deriving DecidableEq, Repr

/-- What an object is: a construct, a token, a bare node that is neither, an outside object that is
no node, or nothing, which stands where a node is missing. -/
inductive Role
  | construct
  | token
  | bare
  | outside (o : Outside)
  | nothing
  deriving DecidableEq, Repr

namespace Role

/-- Whether an object is a node. -/
def isNode : Role → Bool
  | construct | token | bare => true
  | outside _ | nothing => false

/-- Whether an object is no node and yet can stand in a document: a plain value, a list, a table or
nothing. -/
def isPlain : Role → Bool
  | outside (.plain _) | outside (.list _) | outside (.table _) | nothing => true
  | construct | token | bare | outside (.object _) => false

/-- The name of the class of bare nodes. -/
def bareClass : Text := "Rule"

end Role

/-- Why a node gives no answer: it has no such part, or there is nothing where a list is needed. -/
inductive AccessFailure
  | absent
  | empty
  deriving DecidableEq, Repr

/-- What can be asked of nodes of a type. -/
structure NodeAccess (ν : Type) where
  /-- What the node is. -/
  role : ν → Role
  /-- The kind of the node. -/
  kind : ν → Except AccessFailure (Option Kind)
  /-- The text of the node. -/
  text : ν → Except AccessFailure (Option Text)
  /-- The children of the node. -/
  children : ν → Except AccessFailure (List ν)

end JavaText
