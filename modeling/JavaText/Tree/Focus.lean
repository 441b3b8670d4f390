import JavaText.Tree.Basic

/-!
# Places in a tree

A focus is a subtree together with what lies around it: the way from the root, as child positions,
and the kinds of the constructs above, the nearest first.
-/

namespace JavaText

/-- A subtree and its place in the whole tree. -/
structure Focus where
  /-- The child positions from the root of the whole tree down to the subtree. -/
  path : List Nat
  /-- The kinds of the constructs above the subtree, the nearest first. -/
  ancestors : List (Option Kind)
  /-- The subtree. -/
  tree : Tree
  deriving Repr

namespace Focus

/-- The whole tree in focus. -/
def whole (t : Tree) : Focus :=
  { path := [], ancestors := [], tree := t }

/-- The children of the subtree, each in focus, numbered from the given position on. -/
def below (f : Focus) : Nat → List Tree → List Focus
  | _, [] => []
  | i, t :: ts =>
    { path := f.path ++ [i], ancestors := f.tree.kind :: f.ancestors, tree := t }
      :: below f (i + 1) ts

/-- The children of the subtree, each in focus. -/
def children (f : Focus) : List Focus :=
  f.below 0 f.tree.children

/-- The child position that an index stands for. A negative index counts from the last child. -/
def position? (f : Focus) (index : Int) : Option Nat :=
  let place := if index < 0 then index + f.tree.children.length else index
  if place < 0 then none else some place.toNat

/-- Go down to the child that an index stands for. -/
def child? (f : Focus) (index : Int) : Option Focus := do
  let i ← f.position? index
  let t ← f.tree.children[i]?
  return { path := f.path ++ [i], ancestors := f.tree.kind :: f.ancestors, tree := t }

/-- Go down along child indices. -/
def descend? (f : Focus) : List Int → Option Focus
  | [] => some f
  | i :: path =>
    match f.child? i with
    | some f => f.descend? path
    | none => none

end Focus

/-- The subtree at the given child indices. -/
def Tree.at? (t : Tree) (path : List Int) : Option Focus :=
  (Focus.whole t).descend? path

end JavaText
