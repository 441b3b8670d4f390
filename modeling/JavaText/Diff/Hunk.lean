import JavaText.Diff.Alignment

/-!
# Hunks of a unified diff

A unified diff shows the changed segments of an alignment, each with up to three kept lines before
and after it. Changes that are near one another share a hunk. The header of a hunk says which
lines of either list it covers.
-/

namespace JavaText

/-- A part of an alignment with the number of lines of either list before it. -/
structure Hunk where
  /-- How many lines of the first list come before the hunk. -/
  oldStart : Nat
  /-- How many lines of the second list come before the hunk. -/
  newStart : Nat
  /-- The segments that the hunk shows. -/
  segments : List Segment
  deriving DecidableEq, Repr

namespace Hunk

/-- How many kept lines are shown around a change. -/
def context : Nat := 3

/-! ## Grouping -/

/-- Cut a kept segment at the start to its last lines, and count what is cut. -/
def trimStart : List Segment → Nat × List Segment
  | .keep lines :: rest =>
    (lines.length - context, .keep (lines.drop (lines.length - context)) :: rest)
  | segments => (0, segments)

/-- Cut a kept segment at the end to its first lines. -/
def trimEnd : List Segment → List Segment
  | [] => []
  | [.keep lines] => [.keep (lines.take context)]
  | s :: rest => s :: trimEnd rest

/-- The last hunk, unless it shows no change. -/
def close (h : Hunk) : List Hunk :=
  if h.segments.any (!·.isKept) then [h] else []

/-- Go on with a hunk that is open, where `i` and `j` lines of the lists are already covered. A kept
segment that is too long ends the hunk and opens the next. -/
def group (h : Hunk) (i j : Nat) : List Segment → List Hunk
  | [] => h.close
  | s :: rest =>
    let i' := i + s.old.length
    let j' := j + s.new.length
    match s with
    | .keep lines =>
      if 2 * context < lines.length then
        { h with segments := h.segments ++ [.keep (lines.take context)] }
          :: group ⟨i' - context, j' - context, [.keep (lines.drop (lines.length - context))]⟩
            i' j' rest
      else group { h with segments := h.segments ++ [s] } i' j' rest
    | .change _ _ => group { h with segments := h.segments ++ [s] } i' j' rest

/-- The hunks of an alignment. -/
def ofAlignment (segments : List Segment) : List Hunk :=
  let (cut, segments) := trimStart segments
  group ⟨cut, cut, []⟩ cut cut (trimEnd segments)

/-! ## Text -/

/-- The range of lines in a header: where it starts, counted from one, and its length unless that
is one. An empty range is given by the line before it. -/
def range (start length : Nat) : Text :=
  if length = 1 then Text.ofNat (start + 1)
  else Text.ofNat (if length = 0 then start else start + 1) ++ Text.ofString ","
    ++ Text.ofNat length

/-- The lines of a segment, each after the sign that says which list has it. -/
def segmentText : Segment → Text
  | .keep lines => lines.flatMap fun line => CodePoint.ofChar ' ' :: line
  | .change old new =>
    old.flatMap (fun line => CodePoint.ofChar '-' :: line)
      ++ new.flatMap fun line => CodePoint.ofChar '+' :: line

/-- The header of a hunk. -/
def header (h : Hunk) : Text :=
  Text.ofString "@@ -" ++ range h.oldStart (h.segments.flatMap Segment.old).length
    ++ Text.ofString " +" ++ range h.newStart (h.segments.flatMap Segment.new).length
    ++ Text.ofString " @@\n"

/-- A hunk under its header. -/
def text (h : Hunk) : Text :=
  h.header ++ h.segments.flatMap segmentText

end Hunk

end JavaText
