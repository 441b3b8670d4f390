import JavaText.Store.Export

/-!
# Storing and restoring linked nodes

There are two ways to store the tree below a node. A document holds what `Store.document` gives, so
it loses what is above the node and the children of tokens. A snapshot holds all nodes that can be
reached from the node along any link, so restoring it gives the same nodes again; only what is no
node is not taken for a tree when it comes back. A third, unspecified way is there for storage
that is still to be written. A document is read under a limit on how deep it may go.
-/

namespace JavaText

/-- How a tree is stored. -/
inductive Storage
  | document (codec : Codec) (limit : Option Nat)
  | snapshot
  | unspecified
  deriving DecidableEq, Repr

/-- A tree that was stored and restored. -/
inductive Restored
  | tree (t : Tree)
  | linked (s : Store) (r : Ref)

/-- Why a tree could not be stored, or not compared with what was restored. -/
inductive RoundTripError
  | unspecified
  | writing (e : WriteError)
  | reading (e : ReadError)
  | walking (e : WalkError)
  deriving DecidableEq, Repr

namespace Store

/-- Store the tree below a node and restore it; some trees cannot be restored. -/
def roundTrip (s : Store) (r : Ref) : Storage → Except RoundTripError (Option Restored)
  | .document codec limit =>
    match s.encode codec r with
    | .error e => .error (.writing e)
    | .ok bs =>
      match codec.decode limit bs with
      | .error e => .error (.reading e)
      | .ok t => .ok (t.map .tree)
  | .snapshot => .ok (if s.isNode r then some (.linked s r) else none)
  | .unspecified => .error .unspecified

/-- Whether what was restored equals the tree below a node. -/
def equalsRestored (s : Store) (r : Ref) : Restored → Except RoundTripError Bool
  | .tree t => .ok (s.agrees t r)
  | .linked _ q => (s.equal q r).mapError .walking

end Store

namespace Restored

/-- Whether a restored tree has a parent. -/
def hasParent : Restored → Bool
  | tree _ => false
  | linked s r => (s.parent? r).isSome

end Restored

end JavaText
