import JavaText.Diff.Report
import JavaText.Proofs.Diff.Grouping

/-!
# The report on two texts is a patch

Where two texts differ, and line feeds end all of their lines, what the report shows after its first
lines is read as a patch, and applying the patch to the lines of the first text gives those of the
second (`Report.compare_shows_patch`).
-/

namespace JavaText

namespace Report

variable {first second : Text}

/-- The hunks of the lines of two texts. -/
def hunks (first second : Text) : List Hunk :=
  Hunk.ofAlignment (Alignment.of first.lines second.lines)

theorem patched?_hunks (first second : Text) :
    Patch.patched? 0 0 ((hunks first second).map Hunk.edit) first.lines = some second.lines :=
  Hunk.patched?_ofAlignment (Alignment.covers_of first.lines second.lines)

/-- Different texts have hunks, since no hunks change nothing. -/
theorem hunks_ne_nil (hne : first ≠ second) : hunks first second ≠ [] := by
  intro hnil
  have happly := patched?_hunks first second
  rw [hnil, List.map_nil, Patch.patched?, Option.some_inj] at happly
  exact hne (Text.lines_injective happly)

theorem diff_eq (firstName secondName : Text) (hne : first ≠ second) :
    diff firstName secondName first second =
      Text.ofString "--- " ++ firstName ++ Text.ofString "\n"
        ++ Text.ofString "+++ " ++ secondName ++ Text.ofString "\n"
        ++ (hunks first second).flatMap Hunk.text := by
  rw [diff]
  split
  · next hnil => exact absurd hnil (hunks_ne_nil hne)
  · rfl

/-- What is written of the hunks of two texts of whole lines is read as their edits. -/
theorem read?_hunks (hfirst : first.IsLined) (hsecond : second.IsLined) :
    Patch.read? ((hunks first second).flatMap Hunk.text) =
      some ((hunks first second).map Hunk.edit) := by
  refine Hunk.read?_flatMap_text fun h hh l hl => ?_
  rcases Patch.mem_or_mem_of_patched? (patched?_hunks first second) h.edit
    (List.mem_map_of_mem hh) l hl with hmem | hmem
  · exact hfirst.isLine_of_mem _ hmem
  · exact hsecond.isLine_of_mem _ hmem

/-- The report on two different texts whose lines are all ended by line feeds says that they differ.
Under the two lines with their names it shows a patch. The patch has edits, the ranges of each are
those of the lines it shows, and one of these lines at least is in one text only. The edits are in
order and none reaches into the next, in either text. Applied to the lines of the first text, they
give those of the second. -/
theorem compare_shows_patch (firstName secondName : Text) (hfirst : first.IsLined)
    (hsecond : second.IsLined) (hne : first ≠ second) : ∃ (body : Text) (edits : List Patch.Edit),
      compare firstName secondName first second true =
        { identical := false
          text := verdict firstName secondName false ++ Text.ofString "\n"
            ++ (Text.ofString "--- " ++ firstName ++ Text.ofString "\n"
              ++ Text.ofString "+++ " ++ secondName ++ Text.ofString "\n" ++ body) } ∧
      Patch.read? body = some edits ∧
      edits ≠ [] ∧
      (∀ e ∈ edits, e.Fits ∧ ∃ l ∈ e.lines, l.sign ≠ .both) ∧
      edits.Pairwise Patch.Edit.Precedes ∧
      Patch.patched? 0 0 edits first.lines = some second.lines := by
  have happly := patched?_hunks first second
  have hfits : ∀ e ∈ (hunks first second).map Hunk.edit, e.Fits :=
    List.forall_mem_map.2 fun h _ => h.fits_edit
  have hchange : ∀ e ∈ (hunks first second).map Hunk.edit, ∃ l ∈ e.lines, l.sign ≠ .both :=
    List.forall_mem_map.2 (Hunk.exists_ne_both_of_mem_ofAlignment (Alignment.allProper_of _ _)
      (Alignment.alternates_of _ _))
  refine ⟨_, _, ?_, read?_hunks hfirst hsecond, ?_, ?_,
    Patch.pairwise_of_patched? happly hfits, happly⟩
  · rw [compare, if_neg hne, diff_eq firstName secondName hne]
    rfl
  · rw [ne_eq, List.map_eq_nil_iff]
    exact hunks_ne_nil hne
  · exact fun e he => ⟨hfits e he, hchange e he⟩

/-- A text of eight lines. -/
def earlier : Text := "p\na\nb\nc\nd\ne\nf\ng\n"

/-- The same text without its first line, and with another line at the end. -/
def later : Text := "a\nb\nc\nd\ne\nf\ng\nq\n"

theorem compare_shows_patch_apart :
    earlier.IsLined ∧ later.IsLined ∧ earlier ≠ later ∧
    (compare "x" "y" earlier later true).text = Text.ofString
      ("x and y differ.\n--- x\n+++ y\n@@ -1,4 +1,3 @@\n-p\n a\n b\n c\n" ++
        "@@ -6,3 +5,4 @@\n e\n f\n g\n+q\n") ∧
    ∃ (body : Text) (edits : List Patch.Edit),
      compare "x" "y" earlier later true =
        { identical := false, text := Text.ofString "x and y differ.\n--- x\n+++ y\n" ++ body } ∧
      Patch.read? body = some edits ∧ edits ≠ [] ∧
      Patch.patched? 0 0 edits earlier.lines = some later.lines := by
  have hearlier : earlier.IsLined :=
    Text.isLined_of_all ["p", "a", "b", "c", "d", "e", "f", "g"] (by decide)
  have hlater : later.IsLined :=
    Text.isLined_of_all ["a", "b", "c", "d", "e", "f", "g", "q"] (by decide)
  have hne : earlier ≠ later := by decide
  obtain ⟨body, edits, hcompare, hread, hnonempty, -, -, happly⟩ :=
    compare_shows_patch "x" "y" hearlier hlater hne
  exact ⟨hearlier, hlater, hne, by decide +kernel, body, edits, hcompare, hread, hnonempty, happly⟩

end Report

end JavaText
