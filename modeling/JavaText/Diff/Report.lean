import JavaText.Diff.Hunk
import JavaText.Text.Lines

/-!
# Report on two texts

Whether two canonical texts are identical, said in a sentence, and on demand a unified diff of
their lines. The lines stand in the diff as they are, so a last line without a line break has none
in the diff either.
-/

namespace JavaText

/-- The outcome of a comparison. -/
structure Report where
  /-- Whether the texts are identical. -/
  identical : Bool
  /-- The report in words. -/
  text : Text
  deriving DecidableEq, Repr

namespace Report

/-- The unified diff of two texts under their names. -/
def diff (firstName secondName first second : Text) : Text :=
  match Hunk.ofAlignment (Alignment.of first.lines second.lines) with
  | [] => []
  | hunks =>
    Text.ofString "--- " ++ firstName ++ Text.ofString "\n"
      ++ Text.ofString "+++ " ++ secondName ++ Text.ofString "\n"
      ++ hunks.flatMap Hunk.text

/-- The verdict on two texts under their names. -/
def verdict (firstName secondName : Text) (identical : Bool) : Text :=
  firstName ++ Text.ofString " and " ++ secondName
    ++ Text.ofString (if identical then " are structurally identical." else " differ.")

/-- Compare two texts. -/
def compare (firstName secondName first second : Text) (showDiff : Bool) : Report :=
  if first = second then { identical := true, text := verdict firstName secondName true }
  else
    let words := verdict firstName secondName false
    { identical := false
      text := if showDiff then
        words ++ Text.ofString "\n" ++ diff firstName secondName first second
      else words }

end Report

end JavaText
