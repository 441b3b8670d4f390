import JavaText.Json.Reader
import JavaText.Json.Writer
import JavaText.Tree.Basic

/-!
# Trees as JSON documents

A token is an object with type `l`, its name and its text; a construct is an object with type `p`,
its name and the list of its children. A document is a tree only if every object in it, also under
keys that are not used and in members that a later one replaces, is a node. The names are read
back as kinds where there is a kind of that name.
-/

namespace JavaText

/-! ## Writing -/

/-- The name of a kind in a document; a missing kind has none. -/
def Kind.toJson : Option Kind → Json
  | some k => .string k.name
  | none => .null

namespace Token

/-- A token as a node of a document. -/
def toJson (t : Token) : Json :=
  .object [
    ("t", .string "l"),
    ("n", Kind.toJson t.kind),
    ("s", match t.text with
      | some s => .string s
      | none => .null)]

end Token

/-- A construct as a node of a document, with the documents of its children. -/
def Json.ofConstruct (kind : Option Kind) (children : List Json) : Json :=
  .object [("t", .string "p"), ("n", Kind.toJson kind), ("c", .array children)]

namespace Tree

mutual

/-- A tree as a document. -/
def toJson : Tree → Json
  | token t => t.toJson
  | construct k ts => Json.ofConstruct k (toJsonAll ts)

/-- Several trees as values. -/
def toJsonAll : List Tree → List Json
  | [] => []
  | t :: ts => toJson t :: toJsonAll ts

end

end Tree

/-! ## Reading -/

/-- What a value of a document means for the node it belongs to. -/
inductive Reading
  | text (t : Text)
  | node (t : Tree)
  | nodes (ts : List Tree)
  | other
  deriving Repr

namespace Reading

/-- The trees, if every reading is a node. -/
def trees? : List Reading → Option (List Tree)
  | [] => some []
  | node t :: rs => (trees? rs).map (t :: ·)
  | _ :: _ => none

/-- The reading of an array. -/
def ofItems (rs : List Reading) : Reading :=
  match trees? rs with
  | some ts => nodes ts
  | none => other

/-- The node that the members of an object describe. -/
def node? (members : List (Text × Reading)) : Option Tree :=
  match Json.last? "n" members, Json.last? "t" members with
  | some (text name), some (text type) =>
    if type = Text.ofString "l" then
      match Json.last? "s" members with
      | some (text s) => some (.token ⟨some (Kind.ofTokenName name), some s⟩)
      | _ => none
    else if type = Text.ofString "p" then
      match Json.last? "c" members with
      | none => some (.construct (some (Kind.ofConstructName name)) [])
      | some (nodes ts) => some (.construct (some (Kind.ofConstructName name)) ts)
      | _ => none
    else none
  | _, _ => none

end Reading

namespace Json

mutual

/-- The reading of a value; none if some object in it is not a node. -/
def reading? : Json → Option Reading
  | string t => some (.text t)
  | array items => (readings? items).map Reading.ofItems
  | object members =>
    match memberReadings? members with
    | some rs => (Reading.node? rs).map Reading.node
    | none => none
  | null => some .other
  | bool _ => some .other
  | number _ => some .other

/-- The readings of several values. -/
def readings? : List Json → Option (List Reading)
  | [] => some []
  | j :: js =>
    match reading? j, readings? js with
    | some r, some rs => some (r :: rs)
    | _, _ => none

/-- The readings of the members of an object. -/
def memberReadings? : List (Text × Json) → Option (List (Text × Reading))
  | [] => some []
  | (key, j) :: members =>
    match reading? j, memberReadings? members with
    | some r, some rs => some ((key, r) :: rs)
    | _, _ => none

end

end Json

/-- The tree that a document describes. -/
def Tree.ofJson? (j : Json) : Option Tree :=
  match j.reading? with
  | some (.node t) => some t
  | _ => none

end JavaText
