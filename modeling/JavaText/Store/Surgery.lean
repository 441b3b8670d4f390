import JavaText.Store.Basic

/-!
# Surgery on linked nodes

The operations that build and edit a tree in a store. Attaching a node sets its parent link and
lists it among the children of its new parent; it does not look whether the node is already listed
elsewhere. Deleting a node follows the parent link. The three assignments change one part of one
object and nothing else. An operation that fails may have changed something before.
-/

namespace JavaText

/-- Why an operation fails. -/
inductive SurgeryError
  /-- What is no node does not know the operation. -/
  | unsupported
  /-- Nothing can be attached to what is no node. -/
  | unattachable
  /-- The index of a position does not fit a machine word. -/
  | indexTooLarge
  /-- The parent of a node has no list of children. -/
  | noList
  /-- A node is not listed by its parent. -/
  | notListed
  deriving DecidableEq, Repr

/-- The message about a node that its parent does not list. -/
def SurgeryError.notListedMessage : Text :=
  "list.remove(x): x not in list"

/-- An operation on a store. A child that is missing is passed over. -/
inductive Surgery
  /-- A new node, attached to a parent and with children attached to it. -/
  | create (role : Role) (kind : Option Kind) (text : Option Text) (parent : Option Ref)
      (children : List (Option Ref))
  /-- An outside object as it is. -/
  | place (node : Node)
  /-- A child after the last one. -/
  | add (node : Ref) (child : Option Ref)
  /-- Children after the last one. -/
  | addAll (node : Ref) (children : List (Option Ref))
  /-- Children after the last one, where what is no node is refused in other words. -/
  | attach (node : Ref) (children : List (Option Ref))
  /-- A child at a position, counted from the end if negative. -/
  | insert (node : Ref) (index : Int) (child : Option Ref)
  /-- A node out of the children of its parent. -/
  | delete (node : Ref)
  /-- A parent link. -/
  | setParent (node : Ref) (parent : Option Ref)
  /-- A kind. -/
  | setKind (node : Ref) (kind : Option Kind)
  /-- A text. -/
  | setText (node : Ref) (text : Option Text)
  deriving DecidableEq, Repr

namespace Store

/-! ## Links -/

/-- Set the parent link of a node. -/
def setParent (s : Store) (r : Ref) (parent : Option Ref) : Store :=
  s.modify r fun n => { n with parent }

/-- Change the children that a node lists. -/
def modifyChildren (s : Store) (r : Ref) (f : List Ref → List Ref) : Store :=
  s.modify r fun n =>
    match n.children with
    | .value cs => { n with children := .value (f cs) }
    | _ => n

/-- The position in a list of the given length that an index stands for: a negative index counts
from the end, and an index out of range stands for the nearer end. -/
def position (length : Nat) (index : Int) : Nat :=
  if index < 0 then (index + length).toNat else min index.toNat length

/-! ## Attaching and deleting -/

/-- Attach a child after the last one. -/
def addChild (s : Store) (r : Ref) : Option Ref → Store
  | none => s
  | some c => (s.modifyChildren r (· ++ [c])).setParent c (some r)

/-- Attach children after the last one. -/
def addChildren (s : Store) (r : Ref) : List (Option Ref) → Store
  | [] => s
  | c :: cs => (s.addChild r c).addChildren r cs

/-- Whether an index fits a machine word. -/
def isIndex (index : Int) : Bool :=
  decide (-9223372036854775808 ≤ index) && decide (index ≤ 9223372036854775807)

/-- Attach a child at a position. The parent link is set before the position is looked at, and stays
if that fails. -/
def insertChild (s : Store) (r : Ref) (index : Int) :
    Option Ref → Store × Except SurgeryError Unit
  | none => (s, .ok ())
  | some c =>
    let linked := s.setParent c (some r)
    if isIndex index then
      (linked.modifyChildren r fun cs => cs.insertIdx (position cs.length index) c, .ok ())
    else (linked, .error .indexTooLarge)

/-- Take a node out of the children of its parent; a node without a parent stays as it is. -/
def delete (s : Store) (r : Ref) : Except SurgeryError Store :=
  match s.parent? r with
  | none => .ok s
  | some p =>
    match (s.node? p).map Node.children with
    | some (.value cs) =>
      if cs.contains r then .ok ((s.modifyChildren p (·.erase r)).setParent r none)
      else .error .notListed
    | _ => .error .noList

/-- A new node without links. -/
def fresh (role : Role) (kind : Option Kind) (text : Option Text) : Node :=
  { role
    kind := .ofOption kind
    text := if role = .token then .ofOption text else .absent
    children := .value []
    parent := none }

/-- Create a node, attach it to its parent and attach its children to it. -/
def create (s : Store) (role : Role) (kind : Option Kind) (text : Option Text)
    (parent : Option Ref) (children : List (Option Ref)) : Except SurgeryError Store :=
  let created := s.push (fresh role kind text)
  match parent with
  | none => .ok (created.addChildren s.size children)
  | some p =>
    if s.isNode p then .ok ((created.addChild p (some s.size)).addChildren s.size children)
    else .error .unattachable

/-! ## Operations -/

/-- The store after a step that changes nothing if it fails. -/
def settle (s : Store) : Except SurgeryError Store → Store × Except SurgeryError Unit
  | .ok t => (t, .ok ())
  | .error e => (s, .error e)

/-- The store after a step that is taken only under a condition. -/
def only (s : Store) (condition : Bool) (e : SurgeryError) (t : Store) :
    Store × Except SurgeryError Unit :=
  if condition then (t, .ok ()) else (s, .error e)

/-- Carry out an operation. Nodes and outside objects have parts to assign, nothing has none. -/
def apply (s : Store) : Surgery → Store × Except SurgeryError Unit
  | .create role kind text parent children => s.settle (s.create role kind text parent children)
  | .place node => (s.push node, .ok ())
  | .add r c => s.only (s.isNode r) .unsupported (s.addChild r c)
  | .addAll r cs => s.only (s.isNode r) .unsupported (s.addChildren r cs)
  | .attach r cs => s.only (s.isNode r) .unattachable (s.addChildren r cs)
  | .insert r index c =>
    if s.isNode r then s.insertChild r index c else (s, .error .unsupported)
  | .delete r => if s.isNode r then s.settle (s.delete r) else (s, .error .unsupported)
  | .setParent r p => s.only (s.role r != .nothing) .unsupported (s.setParent r p)
  | .setKind r kind =>
    s.only (s.role r != .nothing) .unsupported
      (s.modify r fun n => { n with kind := .ofOption kind })
  | .setText r text =>
    s.only (s.role r != .nothing) .unsupported
      (s.modify r fun n => { n with text := .ofOption text })

/-- Carry out operations one after another, up to the first that fails. -/
def applyAll (s : Store) : List Surgery → Store × Except SurgeryError Unit
  | [] => (s, .ok ())
  | op :: ops =>
    match s.apply op with
    | (s, .error e) => (s, .error e)
    | (s, .ok ()) => s.applyAll ops

end Store

end JavaText
