import JavaText.Store.Walk
import JavaText.Tree.Codec

/-!
# Linked nodes as documents

Storing what is below a node walks down from it, through the children of constructs and through
lists and tables, not through what tokens list. What is met again on the way down from itself makes
the walk circular; a node met twice on different ways does not. Constructs and tokens become nodes
of the document, and plain values, lists and tables stand in it for what they are; no other object
can be stored. The first offence in the order of the document is the one that counts.
-/

namespace JavaText

/-- Why what is below a node cannot be stored. -/
inductive ExportError
  /-- An object contains itself. -/
  | circular
  /-- An object of the named class is no node of a tree. -/
  | noTreeNode (className : Text)
  deriving DecidableEq, Repr

/-- The message about what cannot be stored. -/
def ExportError.message : ExportError → Text
  | circular => "Circular reference detected"
  | noTreeNode className =>
    Text.ofString "Object of type " ++ className ++ Text.ofString " is not a tree node."

/-- Why what is below a node was not written: it cannot be stored, or not in the encoding. -/
inductive WriteError
  | tree (e : ExportError)
  | bytes (e : EncodeError)
  deriving DecidableEq, Repr

/-- An object that stands in a document with what is in it. -/
inductive Holder
  | construct (kind : Option Kind) (children : List Ref)
  | list (items : List Ref)
  | table (members : List (Text × Ref))
  deriving DecidableEq, Repr

namespace Holder

/-- The objects that are in it, in order. -/
def parts : Holder → List Ref
  | construct _ children => children
  | list items => items
  | table members => members.map Prod.snd

/-- Its document, made of those of its parts. -/
def make : Holder → List Json → Json
  | construct kind _, js => Json.ofConstruct kind js
  | list _, js => .array js
  | table members, js => .object ((members.map Prod.fst).zip js)

end Holder

/-- What a document can make of an object: a value, a value that is made of those of its parts, or
nothing, since the object is of a class that no document knows. -/
inductive DocumentRole
  | value (j : Json)
  | holder (h : Holder)
  | foreign (className : Text)
  deriving DecidableEq, Repr

namespace Store

/-- What a document can make of an object of a store. -/
def documentRole (s : Store) (r : Ref) : DocumentRole :=
  match s.role r with
  | .token => .value (Token.toJson { kind := s.kind? r, text := s.text? r })
  | .construct => .holder (.construct (s.kind? r) (s.childrenOf r))
  | .bare => .foreign Role.bareClass
  | .outside (.object className) => .foreign className
  | .outside (.plain v) => .value v.value
  | .outside (.list items) => .holder (.list items)
  | .outside (.table members) => .holder (.table members)
  | .nothing => .value .null

/-- The document of what is below a node, where `path` holds what is on the way down to it. The path
never holds an object twice, so as much fuel as there are objects is enough. -/
def documentFrom (s : Store) : Nat → List Ref → Ref → Except ExportError Json
  | 0, _, _ => .error .circular
  | fuel + 1, path, r =>
    match s.documentRole r with
    | .value j => .ok j
    | .holder h =>
      if path.contains r then .error .circular
      else (h.parts.mapM (s.documentFrom fuel (r :: path))).map h.make
    | .foreign className => .error (.noTreeNode className)

/-- The document of what is below a node, without the children of tokens. -/
def document (s : Store) (r : Ref) : Except ExportError Json :=
  s.documentFrom (s.size + 1) [] r

/-- Store what is below a node. -/
def encode (s : Store) (codec : Codec) (r : Ref) : Except WriteError Bytes :=
  match s.document r with
  | .error e => .error (.tree e)
  | .ok j => (codec.encodeText j.write).mapError .bytes

end Store

end JavaText
