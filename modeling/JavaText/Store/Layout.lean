import JavaText.Store.Walk
import JavaText.Text.Field

/-!
# Linked nodes in a field

How a node of a store is shown on request. A bar asks for the outline of what is below the node; any
other request is a field in which its raw text is laid out. What is no node knows of neither; only
an empty request shows nothing as such.
-/

namespace JavaText

/-- Why a node is not shown. -/
inductive LayoutError
  /-- What is no node takes no requests. -/
  | noNode
  /-- The request is no field for text. -/
  | badField
  /-- The field is wider than any memory. -/
  | tooWide
  /-- The walk down from the node gives no result. -/
  | walking (e : WalkError)
  deriving DecidableEq, Repr

namespace Store

/-- The request for an outline. -/
def outlineRequest : Text := "|"

/-- Show a node as requested. The raw text is read before the field, so a tree without an end counts
before a bad field. -/
def layout (s : Store) (r : Ref) (request : Text) : Except LayoutError Text :=
  if s.role r = .nothing ∧ request = [] then .ok nothingText
  else if !s.isNode r then .error .noNode
  else if request = outlineRequest then (s.outline r).mapError .walking
  else match s.text r with
    | .error e => .error (.walking e)
    | .ok t =>
      match Field.parse? request with
      | none => .error .badField
      | some f => if Field.maxWidth < f.width then .error .tooWide else .ok (f.layout t)

end Store

end JavaText
