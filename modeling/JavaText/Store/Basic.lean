import JavaText.Node
import JavaText.Tree.Basic

/-!
# A store of linked nodes

While a tree is being built or edited its nodes are linked to one another: a node lists its
children, and each node has a link to its parent. Nothing forces the two to agree, so a store can
hold shared nodes, cycles and links that contradict each other. A store also holds outside
objects, which take part in a tree without being nodes of it; they may lack any part. One object can
stand for nothing; it has no parts at all.

`Store.node?` is the view of a store. A node is referred to by its number, in order of creation.
-/

namespace JavaText

/-- A part of a node: it is not there, it is there and empty, or it holds a value. -/
inductive Slot (α : Type)
  | absent
  | empty
  | value (a : α)
  deriving DecidableEq, Repr

namespace Slot

variable {α : Type}

/-- The part that a value or its absence fills. -/
def ofOption : Option α → Slot α
  | some a => value a
  | none => empty

/-- The value of a part, if it holds one. -/
def get? : Slot α → Option α
  | value a => some a
  | _ => none

/-- The value of a part that has to be there but may be empty. -/
def read : Slot α → Except AccessFailure (Option α)
  | absent => .error .absent
  | empty => .ok none
  | value a => .ok (some a)

/-- The value of a part that has to be there and not empty. -/
def demand : Slot α → Except AccessFailure α
  | absent => .error .absent
  | empty => .error .empty
  | value a => .ok a

end Slot

/-- A node of a store. -/
structure Node where
  /-- What the node is. -/
  role : Role
  /-- The kind of the node. -/
  kind : Slot Kind
  /-- The text of the node; only tokens have one from the start. -/
  text : Slot Text
  /-- The children that the node lists. -/
  children : Slot (List Ref)
  /-- The node that the parent link leads to. -/
  parent : Option Ref
  deriving DecidableEq, Repr

/-- The object that stands for nothing. -/
def Node.nothing : Node :=
  { role := .nothing, kind := .absent, text := .absent, children := .absent, parent := none }

/-- A store of linked nodes. -/
structure Store where
  /-- The nodes in order of creation. -/
  nodes : Array Node
  deriving DecidableEq, Repr

namespace Store

/-- A store without nodes. -/
def empty : Store :=
  { nodes := #[] }

/-- How many nodes there are. -/
def size (s : Store) : Nat :=
  s.nodes.size

/-- The node with the given number. -/
def node? (s : Store) (r : Ref) : Option Node :=
  s.nodes[r]?

/-- Put a new node into the store; its number is the size of the store before. -/
def push (s : Store) (n : Node) : Store :=
  { nodes := s.nodes.push n }

/-- Change a node. -/
def modify (s : Store) (r : Ref) (f : Node → Node) : Store :=
  { nodes := s.nodes.modify r f }

/-- What an object is; a reference that leads nowhere leads to nothing. -/
def role (s : Store) (r : Ref) : Role :=
  match s.node? r with
  | some n => n.role
  | none => .nothing

/-- Whether an object is a node. -/
def isNode (s : Store) (r : Ref) : Bool :=
  (s.role r).isNode

/-- The kind of a node, if it has one. -/
def kind? (s : Store) (r : Ref) : Option Kind :=
  (s.node? r).bind (·.kind.get?)

/-- The text of a node, if it has one. -/
def text? (s : Store) (r : Ref) : Option Text :=
  (s.node? r).bind (·.text.get?)

/-- The children that a node lists. -/
def childrenOf (s : Store) (r : Ref) : List Ref :=
  ((s.node? r).bind (·.children.get?)).getD []

/-- The node that the parent link leads to. -/
def parent? (s : Store) (r : Ref) : Option Ref :=
  (s.node? r).bind (·.parent)

/-- What can be asked of the nodes of a store. -/
def access (s : Store) : NodeAccess Ref where
  role := s.role
  kind r := match s.node? r with
    | some n => n.kind.read
    | none => .error .absent
  text r := match s.node? r with
    | some n => n.text.read
    | none => .error .absent
  children r := match s.node? r with
    | some n => n.children.demand
    | none => .error .absent

end Store

end JavaText
