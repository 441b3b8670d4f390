import JavaText.Store.Basic
import JavaText.Tree.Outline

/-!
# Walks over linked nodes

What can be read off a store: the ancestors of a node along the parent links, and along the
children its leaves, its raw text, its outline and whether two nodes are the roots of equal trees.

The parent links may lead round in a circle; the walk to the ancestors stops before a node that it
has already seen. The children may do so too; such a tree has no end, and the walks down say so.
They go no deeper than there are nodes, since a longer way down meets some node twice.
-/

namespace JavaText

/-- Why a walk down gives no result. -/
inductive WalkError
  /-- The tree contains itself. -/
  | endless
  /-- The walk met an object that is no node. -/
  | unsupported
  /-- The walk met an outside object that lacks a part. -/
  | access (failure : AccessFailure)
  deriving DecidableEq, Repr

namespace Store

/-! ## Ancestors -/

/-- Follow parent links from a node on, up to a node that was seen before. -/
def chain (s : Store) : Nat → List Ref → Option Ref → List Ref
  | _, _, none => []
  | 0, _, some _ => []
  | fuel + 1, seen, some p =>
    if seen.contains p then [] else p :: s.chain fuel (p :: seen) (s.parent? p)

/-- The ancestors of a node, the nearest first. The walk visits no node twice, so it takes no more
steps than there are nodes, and one more for a link that leads out of the store. -/
def ancestors (s : Store) (r : Ref) : List Ref :=
  s.chain (s.size + 1) [r] (s.parent? r)

/-! ## Leaves and raw text -/

/-- How deep a walk down may go before it is known to have no end. -/
def depth (s : Store) : Nat :=
  s.size + 1

/-- The tokens without children below a node, from left to right. -/
def leavesFrom (s : Store) : Nat → Ref → Except WalkError (List Ref)
  | 0, _ => .error .endless
  | fuel + 1, r =>
    match s.role r, s.childrenOf r with
    | .outside _, _ | .nothing, _ => .error .unsupported
    | .token, [] => .ok [r]
    | _, cs => (cs.mapM (s.leavesFrom fuel)).map List.flatten

/-- The tokens without children below a node, from left to right. -/
def leaves (s : Store) (r : Ref) : Except WalkError (List Ref) :=
  s.leavesFrom s.depth r

/-- The text that is shown for nothing. -/
def nothingText : Text := "None"

/-- The raw text of a node: that of a token, or those of the children. -/
def textFrom (s : Store) : Nat → Ref → Except WalkError Text
  | 0, _ => .error .endless
  | fuel + 1, r =>
    match s.role r with
    | .outside _ => .error .unsupported
    | .nothing => .ok nothingText
    | .token => .ok ((s.text? r).getD [])
    | _ => ((s.childrenOf r).mapM (s.textFrom fuel)).map List.flatten

/-- The raw text of a node. -/
def text (s : Store) (r : Ref) : Except WalkError Text :=
  s.textFrom s.depth r

/-! ## Outline -/

/-- The lines of the outline of a node. -/
def outlineFrom (s : Store) : Nat → Nat → Ref → Except WalkError (List Text)
  | 0, _, _ => .error .endless
  | fuel + 1, depth, r => do
    let kind ← (s.access.kind r).mapError .access
    if s.role r = .token then
      return [Outline.tokenLine depth ⟨kind, s.text? r⟩]
    else
      let children ← (s.access.children r).mapError .access
      let lines ← children.mapM (s.outlineFrom fuel (depth + 1))
      return Outline.constructLine depth kind :: lines.flatten

/-- The outline of a node. -/
def outline (s : Store) (r : Ref) : Except WalkError Text :=
  if !s.isNode r then .error .unsupported
  else (s.outlineFrom s.depth 0 r).map (Text.join "\n")

/-! ## Equality -/

/-- Whether two nodes are the roots of equal trees: the same roles, kinds, numbers of children and
texts throughout. -/
def equalFrom (s : Store) : Nat → Ref → Ref → Except WalkError Bool
  | 0, _, _ => .error .endless
  | fuel + 1, r, q =>
    if !s.isNode r then .error .unsupported
    else if s.role r ≠ s.role q ∨ s.kind? r ≠ s.kind? q
        ∨ (s.childrenOf r).length ≠ (s.childrenOf q).length then .ok false
    else do
      let below ← allEqual (s.equalFrom fuel) (s.childrenOf r) (s.childrenOf q)
      return below && (s.role r != .token || s.text? r == s.text? q)
where
  /-- Whether nodes are equal in pairs, up to the first pair that is not. -/
  allEqual (equal : Ref → Ref → Except WalkError Bool) :
      List Ref → List Ref → Except WalkError Bool
    | r :: rs, q :: qs => do
      if ← equal r q then allEqual equal rs qs else return false
    | _, _ => .ok true

/-- Whether two nodes are the roots of equal trees. A way down that goes on after it has met as many
pairs of nodes as there are has no end. -/
def equal (s : Store) (r q : Ref) : Except WalkError Bool :=
  s.equalFrom (s.size * s.size + 1) r q

mutual

/-- Whether a tree equals the one below a node. -/
def agrees (s : Store) : Tree → Ref → Bool
  | .token t, r =>
    s.role r == .token && t.kind == s.kind? r && (s.childrenOf r).isEmpty && t.text == s.text? r
  | .construct kind ts, r =>
    s.role r == .construct && kind == s.kind? r && s.agreesAll ts (s.childrenOf r)

/-- Whether trees equal in pairs those below some nodes. -/
def agreesAll (s : Store) : List Tree → List Ref → Bool
  | [], [] => true
  | t :: ts, r :: rs => s.agrees t r && s.agreesAll ts rs
  | _, _ => false

end

end Store

end JavaText
