import JavaText.Encoding.Decode
import JavaText.Encoding.Encode
import JavaText.Tree.Json

/-!
# Trees as bytes

A tree is stored as a JSON document in a chosen encoding. Reading gives no tree where the bytes
are not a text of the encoding, the text is not a document or the document is not a tree, nor where
a name holds the null character. An unknown encoding is an error, and an unknown handler is one as
soon as it is needed. The reader of documents calls itself for what is inside an array or an object,
so whoever runs it sets a limit on how deep a document can be; where the limit is met, that is an
error too.
-/

namespace JavaText

/-- How trees are stored: the names of an encoding and of a handler. -/
structure Codec where
  /-- The name of the encoding. -/
  encoding : Text
  /-- The name of the handler. -/
  handler : Text
  deriving DecidableEq, Repr

/-- Why bytes are not read, apart from holding no tree. -/
inductive ReadError
  | unknown (name : UnknownName)
  /-- Too many arrays and objects are open inside one another. -/
  | tooDeep
  deriving DecidableEq, Repr

namespace Codec

/-- UTF-8 in which surrogates are let through. -/
def standard : Codec :=
  { encoding := "utf-8", handler := "surrogatepass" }

/-- A document for trees: every object is a node. -/
def terms (limit : Option Nat) : Json.Terms :=
  { limit, accepts := fun members => (Json.object members).reading?.isSome }

/-- Read the tree that a text holds as a document, by a way to make trees of documents. -/
def readTextBy {α : Type} (make? : Json → Option α) (limit : Option Nat) (t : Text) :
    Except ReadError (Option α) :=
  match Json.parse (terms limit) t with
  | .ok j => .ok (make? j)
  | .error .invalid => .ok none
  | .error .tooDeep => .error .tooDeep

/-- The document of a tree. -/
def writeText (t : Tree) : Text :=
  t.toJson.write

/-- Whether a name holds the null character. -/
def hasNull (c : Codec) : Bool :=
  c.encoding.hasNull || c.handler.hasNull

/-- Read bytes by a way to make trees of documents. Where there are no bytes nothing is decoded, so
no name is looked up. -/
def decodeBy {α : Type} (make? : Json → Option α) (c : Codec) (limit : Option Nat) (bs : Bytes) :
    Except ReadError (Option α) :=
  if bs.isEmpty || c.hasNull then .ok none
  else match Encoding.ofName? c.encoding with
    | none => .error (.unknown (.encoding c.encoding))
    | some e =>
      match e.decode (.ofName c.handler) bs with
      | .ok t => readTextBy make? limit t
      | .error (.unknown name) => .error (.unknown (name.within c.encoding))
      | .error _ => .ok none

/-- Read a tree, with as many arrays and objects open inside one another as the limit allows. -/
def decode (c : Codec) (limit : Option Nat) (bs : Bytes) : Except ReadError (Option Tree) :=
  c.decodeBy Tree.ofJson? limit bs

/-- Write a text, after the names are checked. -/
def encodeText (c : Codec) (t : Text) : Except EncodeError Bytes :=
  if c.hasNull then .error .nullInName
  else match Encoding.ofName? c.encoding with
    | none => .error (.unknown (.encoding c.encoding))
    | some e => e.encode (.ofName c.handler) t

/-- Store a tree. -/
def encode (c : Codec) (t : Tree) : Except EncodeError Bytes :=
  c.encodeText (writeText t)

end Codec

end JavaText
