import JavaText.Text.Basic

/-!
# Common runs of two line lists

A run is a place in either list from which on so many lines agree. The longest run is the anchor
of an alignment. Lines that occur very often in a long second list do not count when anchors are
compared, but a run is extended over them at both ends.
-/

namespace JavaText

/-- So many lines from a place in the first list agree with those from a place in the second. -/
structure Run where
  /-- How many lines of the first list come before the run. -/
  first : Nat
  /-- How many lines of the second list come before the run. -/
  second : Nat
  /-- How many lines agree. -/
  size : Nat
  deriving DecidableEq, Repr

namespace Run

/-- How many elements two lists share at their starts. -/
def sharedStart : List Text → List Text → Nat
  | x :: xs, y :: ys => if x = y then sharedStart xs ys + 1 else 0
  | _, _ => 0

/-- From how many lines on a list has lines that are too frequent. -/
def longList : Nat := 200

/-- The lines that are too frequent in a list to be anchors. -/
def frequent (b : List Text) : List Text :=
  if b.length < longList then []
  else b.eraseDups.filter fun y => decide (b.length / 100 + 1 < b.count y)

/-- For each line of the second list, how many lines up to it agree with the lines up to `x` of the
first list, given the same numbers for the line before `x`. -/
def nextRow (skip : List Text) (x : Text) (b : List Text) (row : List Nat) : List Nat :=
  List.zipWith (fun y n => if x = y ∧ !skip.contains y then n + 1 else 0) b (0 :: row)

/-- The longer of the best run so far and those that end after `i` lines of the first list, where
the row starts after `j` lines of the second. Of equally long runs the first counts. -/
def bestOfRow (i : Nat) : Nat → List Nat → Run → Run
  | _, [], best => best
  | j, n :: row, best =>
    bestOfRow i (j + 1) row (if best.size < n then ⟨i + 1 - n, j + 1 - n, n⟩ else best)

/-- The best run over the rest of the first list, which starts after `i` lines. -/
def bestFrom (skip : List Text) (b : List Text) : Nat → List Text → List Nat → Run → Run
  | _, [], _, best => best
  | i, x :: a, row, best =>
    let row := nextRow skip x b row
    bestFrom skip b (i + 1) a row (bestOfRow i 0 row best)

/-- A run with all the agreeing lines before and after it. -/
def extend (a b : List Text) (r : Run) : Run :=
  let before := sharedStart (a.take r.first).reverse (b.take r.second).reverse
  let after := sharedStart (a.drop (r.first + r.size)) (b.drop (r.second + r.size))
  ⟨r.first - before, r.second - before, before + r.size + after⟩

/-- The longest run of two lists; its size is zero if there is none. -/
def longest (skip a b : List Text) : Run :=
  extend a b (bestFrom skip b 0 a (b.map fun _ => 0) ⟨0, 0, 0⟩)

end Run

end JavaText
