import JavaText.Canonical.Draft
import JavaText.Store.Walk

/-!
# The canonical text of linked nodes

The canonical text below a node of a store. The children decide the order of the tokens and the
parent links decide what stands around each of them, whether or not the two agree. Every node
without children counts as a token, and a part that is not there counts as missing, so outside
objects can be written too.
-/

namespace JavaText

namespace Store

/-- What stands around a node according to the parent links. -/
def surroundings (s : Store) (r : Ref) : Surroundings :=
  { parent := (s.parent? r).bind s.kind?
    grandparent := ((s.parent? r).bind s.parent?).bind s.kind?
    annotated := (s.ancestors r).any fun a =>
      Kind.isOneOfConstructs Spacing.annotatingConstructs (s.kind? a) }

/-- A node as a token. -/
def tokenAt (s : Store) (r : Ref) : Token :=
  { kind := s.kind? r, text := s.text? r }

/-- Write what is below a node. -/
def writeFrom (s : Store) : Nat → Ref → Draft → Except WalkError Draft
  | 0, _, _ => .error .endless
  | fuel + 1, r, d =>
    match s.childrenOf r with
    | [] => .ok (d.writeToken (s.surroundings r) (s.tokenAt r))
    | cs => cs.foldlM (fun d c => s.writeFrom fuel c d) d

/-- The canonical text below a node. -/
def canonical (s : Store) (r : Ref) : Except WalkError Text :=
  (s.writeFrom s.depth r .empty).map Draft.text

end Store

end JavaText
