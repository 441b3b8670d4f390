import JavaText.Diff.Run

/-!
# Alignment of two line lists

An alignment splits two lists of lines into segments that are kept and segments that are changed.
It is found by taking the longest common run and aligning what comes before it and what comes
after it in the same way.
-/

namespace JavaText

/-- Lines that both lists have, or lines of the first that the second has others for. -/
inductive Segment
  | keep (lines : List Text)
  | change (old new : List Text)
  deriving DecidableEq, Repr

namespace Segment

/-- The lines of the first list in a segment. -/
def old : Segment → List Text
  | keep lines => lines
  | change old _ => old

/-- The lines of the second list in a segment. -/
def new : Segment → List Text
  | keep lines => lines
  | change _ new => new

/-- Whether both lists have the lines of a segment. -/
def isKept : Segment → Bool
  | keep _ => true
  | change _ _ => false

end Segment

namespace Alignment

/-- The segment of all that is left without a common run. -/
def changed : List Text → List Text → List Segment
  | [], [] => []
  | a, b => [.change a b]

/-- Align two lists. Each round takes at least one line from the first list, so as much fuel as
the list has lines is enough. -/
def align (skip : List Text) : Nat → List Text → List Text → List Segment
  | 0, a, b => changed a b
  | fuel + 1, a, b =>
    let r := Run.longest skip a b
    if r.size = 0 then changed a b
    else
      align skip fuel (a.take r.first) (b.take r.second)
        ++ .keep ((a.drop r.first).take r.size)
        :: align skip fuel (a.drop (r.first + r.size)) (b.drop (r.second + r.size))

/-- Make one segment of kept segments that follow one another. -/
def mergeKept : List Segment → List Segment
  | [] => []
  | s :: rest =>
    match s, mergeKept rest with
    | .keep a, .keep b :: rest => .keep (a ++ b) :: rest
    | s, rest => s :: rest

/-- The alignment of two lists. -/
def of (a b : List Text) : List Segment :=
  mergeKept (align (Run.frequent b) a.length a b)

end Alignment

end JavaText
