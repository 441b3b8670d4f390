import JavaText.Proofs.Diff.Report

/-!
# Lines of the diff on lines of their own

The diff of a report is a sequence of headers and marked lines (`Report.diffLines`) with nothing
between them: a line is ended by its own line break, if it has one. So all of them begin on lines of
their own just if every marked line but the last is ended by a line feed, and a report need not be
so (`Report.compare_shows_lines`).

Where line feeds end all lines of both texts but perhaps the last of each, little can go wrong. An
alignment never shows an added line right before a removed one (`Alignment.addedLast_of`), and a
last line that no line feed ends is followed by lines of the other text only. So it is the last line
shown, or it is removed and the lines behind it replace it
(`Patch.Edit.replaced_of_not_endsInFeed`).
-/

namespace JavaText

namespace Patch

variable {lines lines' : List Line}

/-- No added line stands right before a removed one. -/
def AddedLast (lines : List Line) : Prop :=
  lines.IsChain fun l m => ¬(l.sign = .new ∧ m.sign = .old)

theorem addedLast_of_forall_ne_new (h : ∀ l ∈ lines, l.sign ≠ .new) : AddedLast lines :=
  List.isChain_iff_forall_rel_of_append_cons_cons.2 fun l _ _ _ heq hl => h l (by simp [heq]) hl.1

theorem addedLast_of_forall_ne_old (h : ∀ l ∈ lines, l.sign ≠ .old) : AddedLast lines :=
  List.isChain_iff_forall_rel_of_append_cons_cons.2 fun _ m _ _ heq hm => h m (by simp [heq]) hm.2

/-- Removed and kept lines may stand before any lines. -/
theorem AddedLast.append_of_ne_new (h : AddedLast lines') (hlines : ∀ l ∈ lines, l.sign ≠ .new) :
    AddedLast (lines ++ lines') :=
  (addedLast_of_forall_ne_new hlines).append h fun l hl _ _ hnew =>
    hlines l (List.mem_of_mem_getLast? hl) hnew.1

/-- Some kept lines may stand between any lines. -/
theorem AddedLast.append_both (h : AddedLast lines) (h' : AddedLast lines') {kept : List Line}
    (hne : kept ≠ []) (hkept : ∀ l ∈ kept, l.sign = .both) :
    AddedLast (lines ++ (kept ++ lines')) := by
  have hrest : AddedLast (kept ++ lines') :=
    h'.append_of_ne_new fun l hl hnew => by cases (hkept l hl).symm.trans hnew
  refine h.append hrest fun _ _ m hm hold => ?_
  rw [List.head?_append_of_ne_nil _ hne] at hm
  cases (hkept m (List.mem_of_mem_head? hm)).symm.trans hold.2

/-- What is not as all elements of a list but the last are is the last element. -/
theorem eq_nil_of_forall_dropLast {α : Type} {P : α → Prop} {xs ys : List α} {x : α}
    (h : ∀ y ∈ (xs ++ x :: ys).dropLast, P y) (hx : ¬P x) : ys = [] := by
  cases ys with
  | nil => rfl
  | cons y ys =>
    refine absurd (h x ?_) hx
    rw [List.dropLast_append_of_ne_nil (by simp), List.dropLast_cons_cons]
    simp

/-- Let all lines of both lists but their last ones be ended by line feeds, and let no added line
stand right before a removed one. A line that no line feed ends and that is not the last one shown
is removed, and all lines behind it are added: it is the last of the first list, and those behind it
replace it. -/
theorem Edit.replaced_of_not_endsInFeed {e : Edit} (hadded : AddedLast e.lines)
    (hbefore : ∀ t ∈ e.before.dropLast, t.EndsInFeed)
    (hafter : ∀ t ∈ e.after.dropLast, t.EndsInFeed) {front rest : List Line} {l : Line}
    (hlines : e.lines = front ++ l :: rest) (hrest : rest ≠ []) (hl : ¬l.text.EndsInFeed) :
    l.sign = .old ∧ (∀ m ∈ rest, m.sign = .new) ∧ e.before.getLast? = some l.text := by
  have hnew : l.sign ≠ .new → ∀ m ∈ rest, m.sign = .new := by
    intro hsign
    rw [before, hlines, List.filter_append, List.filter_cons_of_pos (by simpa using hsign),
      List.map_append, List.map_cons] at hbefore
    simpa using eq_nil_of_forall_dropLast hbefore hl
  have hold : l.sign ≠ .old → ∀ m ∈ rest, m.sign = .old := by
    intro hsign
    rw [after, hlines, List.filter_append, List.filter_cons_of_pos (by simpa using hsign),
      List.map_append, List.map_cons] at hafter
    simpa using eq_nil_of_forall_dropLast hafter hl
  obtain ⟨m, rest, rfl⟩ := List.exists_cons_of_ne_nil hrest
  cases hsign : l.sign with
  | both =>
    have hm := (hnew (by simp [hsign]) m (by simp)).symm.trans (hold (by simp [hsign]) m (by simp))
    cases hm
  | new =>
    have hchain := List.isChain_iff_forall_rel_of_append_cons_cons.1 hadded hlines
    exact absurd ⟨hsign, hold (by simp [hsign]) m (by simp)⟩ hchain
  | old =>
    have hrest := hnew (by simp [hsign])
    refine ⟨rfl, hrest, ?_⟩
    have hnil : (m :: rest).filter (·.sign ≠ .new) = [] := by
      rw [List.filter_eq_nil_iff]
      simpa using hrest
    rw [before, hlines, List.filter_append, List.filter_cons_of_pos (by simp [hsign]), hnil,
      List.map_append, List.map_singleton, List.getLast?_concat]

end Patch

namespace Alignment

open Hunk Patch

variable {segments : List Segment}

/-! ## Removed lines before added ones -/

theorem sign_of_mem_keep {lines : List Text} :
    ∀ l ∈ segmentLines (.keep lines), l.sign = .both := by
  simp [segmentLines]

theorem addedLast_change (old new : List Text) : AddedLast (segmentLines (.change old new)) :=
  (addedLast_of_forall_ne_old (by simp)).append_of_ne_new (by simp)

theorem addedLast_changed : ∀ a b : List Text, AddedLast ((changed a b).flatMap segmentLines)
  | [], [] => .nil
  | [], y :: b => by simpa [changed] using addedLast_change [] (y :: b)
  | x :: a, b => by simpa [changed] using addedLast_change (x :: a) b

theorem addedLast_align (skip : List Text) (fuel : Nat) (a b : List Text) :
    AddedLast ((align skip fuel a b).flatMap segmentLines) := by
  induction fuel generalizing a b with
  | zero => exact addedLast_changed a b
  | succ fuel ih =>
    rw [align]
    split
    · exact addedLast_changed a b
    · next hsize =>
      obtain ⟨a₁, a₂, b₁, b₂, lines, ha, hb, hr⟩ := Run.isCommon_longest skip a b
      have hlines : (a.drop a₁.length).take lines.length = lines := by
        rw [ha, List.append_assoc, List.drop_left, List.take_left]
      have hne : lines ≠ [] := by
        rintro rfl
        exact hsize (by rw [hr]; rfl)
      rw [hr, hlines, List.flatMap_append, List.flatMap_cons]
      exact (ih _ _).append_both (ih _ _) (by simpa [segmentLines] using hne) sign_of_mem_keep

/-- An alignment never shows an added line right before a removed one. -/
theorem addedLast_of (a b : List Text) : AddedLast ((of a b).flatMap segmentLines) := by
  rw [of, flatMap_mergeKept fun x y => by simp [segmentLines]]
  exact addedLast_align _ _ a b

end Alignment

namespace Hunk

variable {h : Hunk} {i j : Nat} {segments rest : List Segment}

/-! ## Shown lines -/

/-- The lines that some hunks show. -/
def shown (hs : List Hunk) : List Patch.Line :=
  hs.flatMap fun h => h.edit.lines

theorem shown_cons (h : Hunk) (hs : List Hunk) : shown (h :: hs) = h.edit.lines ++ shown hs :=
  List.flatMap_cons

theorem segmentLines_keep_append (x y : List Text) :
    segmentLines (.keep (x ++ y)) = segmentLines (.keep x) ++ segmentLines (.keep y) :=
  List.map_append

/-- Hunks leave out nothing but kept lines in the middle. -/
theorem sublist_group : List.Sublist (shown (group h i j rest))
    ((h.segments ++ rest).flatMap segmentLines) := by
  induction rest generalizing h i j with
  | nil =>
    rw [group, close]
    split
    · simp [shown, edit]
    · exact List.nil_sublist _
  | cons s rest ih =>
    rcases isShort_or_exists s with hs | ⟨front, middle, back, rfl, hfront, hback, hmiddle⟩
    · rw [group_short hs]
      simpa using ih (h := { h with segments := h.segments ++ [s] })
    · rw [group_long hfront hback hmiddle, shown_cons]
      have hlines : (h.segments ++ Segment.keep (front ++ (middle ++ back)) :: rest).flatMap
            segmentLines =
          (h.segments ++ [Segment.keep front]).flatMap segmentLines ++
            (segmentLines (.keep middle) ++
              ([Segment.keep back] ++ rest).flatMap segmentLines) := by
        simp [segmentLines_keep_append]
      rw [hlines]
      exact (List.Sublist.refl _).append (ih.trans (List.sublist_append_right _ _))

theorem sublist_trimStart (segments : List Segment) : List.Sublist
    ((trimStart segments).2.flatMap segmentLines) (segments.flatMap segmentLines) := by
  unfold trimStart
  split
  · exact ((List.drop_sublist _ _).map _).append (.refl _)
  · exact .refl _

theorem sublist_trimEnd (segments : List Segment) : List.Sublist
    ((trimEnd segments).flatMap segmentLines) (segments.flatMap segmentLines) := by
  fun_induction trimEnd segments with
  | case1 => exact .refl _
  | case2 lines => exact ((List.take_sublist _ _).map _).append (.refl _)
  | case3 s rest _ ih => exact (List.Sublist.refl _).append ih

/-- The hunks of an alignment leave out nothing but kept lines. -/
theorem sublist_ofAlignment (segments : List Segment) : List.Sublist
    (shown (ofAlignment segments)) (segments.flatMap segmentLines) :=
  sublist_group.trans ((sublist_trimEnd _).trans (sublist_trimStart segments))

/-! ## Written lines -/

theorem endsInFeed_written (l : Patch.Line) : l.written.EndsInFeed ↔ l.text.EndsInFeed := by
  obtain ⟨sign, text⟩ := l
  cases text with
  | nil => cases sign <;> decide
  | cons c text => exact Text.endsInFeed_append (t := [sign.mark]) (List.cons_ne_nil c text)

theorem ne_nil_of_mem_writtenLines : ∀ p ∈ h.writtenLines, p ≠ [] := by
  rw [writtenLines, List.forall_mem_cons, List.forall_mem_map]
  exact ⟨h.isLine_header.endsInFeed.ne_nil, fun l _ => List.cons_ne_nil l.sign.mark l.text⟩

/-- Headers are ended by line feeds, and none is the last line of hunks that show lines. -/
theorem forall_dropLast_writtenLines : ∀ {hs : List Hunk}, (∀ h ∈ hs, h.edit.lines ≠ []) →
    ((∀ p ∈ (hs.flatMap writtenLines).dropLast, p.EndsInFeed) ↔
      ∀ l ∈ (shown hs).dropLast, l.text.EndsInFeed)
  | [], _ => by simp [shown]
  | h :: hs, hlines => by
    obtain ⟨hne, hlines⟩ := List.forall_mem_cons.1 hlines
    have ih := forall_dropLast_writtenLines hlines
    have hheader : Text.EndsInFeed h.header := h.isLine_header.endsInFeed
    cases hs with
    | nil =>
      have hwritten : h.edit.lines.map Patch.Line.written ≠ [] := by simpa using hne
      rw [List.flatMap_singleton, writtenLines, List.dropLast_cons_of_ne_nil hwritten,
        List.forall_mem_cons, ← List.map_dropLast, List.forall_mem_map, shown,
        List.flatMap_singleton]
      simp only [hheader, true_and, endsInFeed_written]
    | cons next hs =>
      have hwritten : (next :: hs).flatMap writtenLines ≠ [] := by simp [writtenLines]
      have hshown : shown (next :: hs) ≠ [] := by simp [shown, hlines next]
      rw [List.flatMap_cons, List.dropLast_append_of_ne_nil hwritten, List.forall_mem_append, ih,
        shown_cons h, List.dropLast_append_of_ne_nil hshown, List.forall_mem_append, writtenLines,
        List.forall_mem_cons, List.forall_mem_map]
      simp only [hheader, true_and, endsInFeed_written]

end Hunk

/-- A line before the last of some lines stands before others in whatever they were taken from. -/
theorem exists_of_mem_dropLast_sublist {α : Type} {xs ys : List α} {x : α} (hx : x ∈ xs.dropLast)
    (hsub : List.Sublist xs ys) : ∃ front added front' rest, xs = front ++ x :: added ∧ added ≠ [] ∧
      ys = front' ++ x :: rest ∧ List.Sublist added rest := by
  obtain ⟨front, between, hdrop⟩ := List.append_of_mem hx
  have hne : xs ≠ [] := by
    rintro rfl
    cases hx
  have hxs : xs = front ++ x :: (between ++ [xs.getLast hne]) := by
    rw [← List.cons_append, ← List.append_assoc, ← hdrop, List.dropLast_append_getLast]
  rw [hxs, List.append_sublist_iff] at hsub
  obtain ⟨ys₁, ys₂, rfl, -, hsub⟩ := hsub
  obtain ⟨zs₁, zs₂, rfl, hmem, hrest⟩ := List.cons_sublist_iff.1 hsub
  obtain ⟨zs, zs', rfl⟩ := List.append_of_mem hmem
  exact ⟨front, between ++ [xs.getLast hne], ys₁ ++ zs, zs' ++ zs₂, hxs, by simp, by simp,
    hrest.trans (List.sublist_append_right _ _)⟩

namespace Report

variable {first second : Text}

/-! ## The lines of the diff -/

/-- The lines of the diff of two texts under their names: the lines with the names, and the headers
and marked lines of the hunks. -/
def diffLines (firstName secondName first second : Text) : List Text :=
  (Text.ofString "--- " ++ firstName ++ Text.ofString "\n")
    :: (Text.ofString "+++ " ++ secondName ++ Text.ofString "\n")
    :: (hunks first second).flatMap Hunk.writtenLines

theorem diff_eq_flatten (firstName secondName : Text) (hne : first ≠ second) :
    diff firstName secondName first second =
      (diffLines firstName secondName first second).flatten := by
  rw [diff_eq firstName secondName hne, Hunk.flatMap_text, diffLines, List.flatten_cons,
    List.flatten_cons]
  simp only [List.append_assoc]

/-- What the report says before the diff. -/
def opening (firstName secondName : Text) : Text :=
  verdict firstName secondName false ++ Text.ofString "\n"

theorem lines_ne_nil_of_mem_hunks : ∀ h ∈ hunks first second, h.edit.lines ≠ [] := by
  intro h hh hnil
  obtain ⟨l, hl, -⟩ := Hunk.exists_ne_both_of_mem_ofAlignment (Alignment.allProper_of _ _)
    (Alignment.alternates_of _ _) h hh
  rw [hnil] at hl
  cases hl

/-- All lines of the diff begin on lines of their own just if every marked line but the last one is
ended by a line feed. -/
theorem onOwnLines_diffLines (firstName secondName : Text) (hne : first ≠ second) :
    Text.OnOwnLines (opening firstName secondName) (diffLines firstName secondName first second) ↔
      ∀ l ∈ (Hunk.shown (hunks first second)).dropLast, l.text.EndsInFeed := by
  have hfeed : ∀ t : Text, (t ++ Text.ofString "\n").EndsInFeed := fun t => List.getLast?_concat
  have hhunks : (hunks first second).flatMap Hunk.writtenLines ≠ [] := by
    obtain ⟨h, hs, heq⟩ := List.exists_cons_of_ne_nil (hunks_ne_nil hne)
    simp [heq, Hunk.writtenLines]
  have hpieces : ∀ p ∈ diffLines firstName secondName first second, p ≠ [] := by
    rw [diffLines, List.forall_mem_cons, List.forall_mem_cons]
    refine ⟨(hfeed _).ne_nil, (hfeed _).ne_nil, fun p hp => ?_⟩
    obtain ⟨h, -, hp⟩ := List.mem_flatMap.1 hp
    exact Hunk.ne_nil_of_mem_writtenLines p hp
  have hopening : (opening firstName secondName).EndsInFeed := hfeed _
  rw [Text.onOwnLines_iff hopening hpieces, diffLines,
    List.dropLast_cons_of_ne_nil (List.cons_ne_nil _ _), List.dropLast_cons_of_ne_nil hhunks,
    List.forall_mem_cons, List.forall_mem_cons, and_iff_right (hfeed _), and_iff_right (hfeed _),
    Hunk.forall_dropLast_writtenLines lines_ne_nil_of_mem_hunks]

/-- Where line feeds end all lines of two texts but perhaps the last of each, a marked line that
none ends is the last one shown, or the last line of the first text, which added lines replace. -/
theorem replaced_of_mem_dropLast (hfirst : ∀ t ∈ first.lines.dropLast, t.EndsInFeed)
    (hsecond : ∀ t ∈ second.lines.dropLast, t.EndsInFeed) {l : Patch.Line}
    (hmem : l ∈ (Hunk.shown (hunks first second)).dropLast) (hl : ¬l.text.EndsInFeed) :
    ∃ front added, Hunk.shown (hunks first second) = front ++ l :: added ∧ added ≠ [] ∧
      l.sign = .old ∧ (∀ m ∈ added, m.sign = .new) ∧ first.lines.getLast? = some l.text := by
  -- the alignment as one hunk, from which nothing is left out
  let whole : Hunk := ⟨0, 0, Alignment.of first.lines second.lines⟩
  have hcovers := Alignment.covers_of first.lines second.lines
  have hbefore : whole.edit.before = first.lines := whole.before_edit.trans hcovers.old
  have hafter : whole.edit.after = second.lines := whole.after_edit.trans hcovers.new
  have hsub : List.Sublist (Hunk.shown (hunks first second)) whole.edit.lines :=
    Hunk.sublist_ofAlignment _
  obtain ⟨front, added, front', rest, hshown, hadded, hlines, hrest⟩ :=
    exists_of_mem_dropLast_sublist hmem hsub
  have hne : rest ≠ [] := by
    rintro rfl
    exact hadded (List.sublist_nil.1 hrest)
  obtain ⟨hsign, hnew, hlast⟩ := Patch.Edit.replaced_of_not_endsInFeed
    (Alignment.addedLast_of first.lines second.lines) (hbefore ▸ hfirst) (hafter ▸ hsecond)
    hlines hne hl
  exact ⟨front, added, hshown, hadded, hsign, fun m hm => hnew m (hrest.subset hm), hbefore ▸ hlast⟩

/-- The report on two different texts is what it says of them followed by the lines of the diff. All
of these begin on lines of their own just if every marked line but the last is ended by a line feed.
If line feeds end all lines of both texts but perhaps their last ones, there is one way to fail: the
last line of the first text, ended by no line feed, is shown as removed and added lines follow
it. -/
theorem compare_shows_lines (firstName secondName : Text) (hne : first ≠ second) :
    (compare firstName secondName first second true).text =
      opening firstName secondName ++ (diffLines firstName secondName first second).flatten ∧
    (Text.OnOwnLines (opening firstName secondName)
        (diffLines firstName secondName first second) ↔
      ∀ l ∈ (Hunk.shown (hunks first second)).dropLast, l.text.EndsInFeed) ∧
    ((∀ t ∈ first.lines.dropLast, t.EndsInFeed) → (∀ t ∈ second.lines.dropLast, t.EndsInFeed) →
      (¬Text.OnOwnLines (opening firstName secondName)
          (diffLines firstName secondName first second) ↔
        ∃ front last added, Hunk.shown (hunks first second) = front ++ ⟨.old, last⟩ :: added ∧
          added ≠ [] ∧ (∀ l ∈ added, l.sign = .new) ∧ first.lines.getLast? = some last ∧
          ¬last.EndsInFeed)) := by
  refine ⟨?_, onOwnLines_diffLines firstName secondName hne, fun hfirst hsecond => ?_⟩
  · rw [compare, if_neg hne, ← diff_eq_flatten firstName secondName hne]
    rfl
  · rw [onOwnLines_diffLines firstName secondName hne]
    simp only [not_forall, exists_prop]
    constructor
    · rintro ⟨l, hmem, hl⟩
      obtain ⟨front, added, hshown, hadded, hsign, hnew, hlast⟩ :=
        replaced_of_mem_dropLast hfirst hsecond hmem hl
      refine ⟨front, l.text, added, ?_, hadded, hnew, hlast, hl⟩
      rw [hshown, ← hsign]
    · rintro ⟨front, last, added, hshown, hadded, -, -, hl⟩
      refine ⟨⟨.old, last⟩, ?_, hl⟩
      rw [hshown, List.dropLast_append_of_ne_nil (by simp), List.dropLast_cons_of_ne_nil hadded]
      simp

/-- A line is removed before the last one, which both texts have and no line feed ends. -/
theorem compare_shows_lines_expression :
    Text.ofString "p\na" ≠ Text.ofString "a" ∧
    (∀ t ∈ (Text.ofString "p\na").lines.dropLast, t.EndsInFeed) ∧
    (∀ t ∈ (Text.ofString "a").lines.dropLast, t.EndsInFeed) ∧
    (compare "x" "y" "p\na" "a" true).text =
      Text.ofString "x and y differ.\n--- x\n+++ y\n@@ -1,2 +1 @@\n-p\n a" ∧
    Text.OnOwnLines (opening "x" "y") (diffLines "x" "y" "p\na" "a") ∧
    ¬∃ front last added, Hunk.shown (hunks "p\na" "a") = front ++ ⟨.old, last⟩ :: added ∧
      added ≠ [] ∧ (∀ l ∈ added, l.sign = .new) ∧
      (Text.ofString "p\na").lines.getLast? = some last ∧ ¬last.EndsInFeed := by
  have hne : Text.ofString "p\na" ≠ Text.ofString "a" := by decide
  obtain ⟨-, hown, hreplaced⟩ := compare_shows_lines "x" "y" hne
  have hlines : Text.OnOwnLines (opening "x" "y") (diffLines "x" "y" "p\na" "a") :=
    hown.2 (by decide +kernel)
  exact ⟨hne, by decide, by decide, by decide +kernel, hlines,
    fun h => (hreplaced (by decide) (by decide)).2 h hlines⟩

/-- An added line stands on the line of the removed one that it replaces. -/
theorem compare_shows_lines_replaced :
    Text.ofString "a" ≠ Text.ofString "b" ∧
    (∀ c ∈ Text.ofString "first" ++ Text.ofString "second", c.isLineBreak = false) ∧
    (compare "first" "second" "a" "b" true).text =
      Text.ofString "first and second differ.\n--- first\n+++ second\n@@ -1 +1 @@\n-a+b" ∧
    ¬Text.OnOwnLines (opening "first" "second") (diffLines "first" "second" "a" "b") := by
  have hne : Text.ofString "a" ≠ Text.ofString "b" := by decide
  refine ⟨hne, Text.isLineBreak_of_all (by decide), by decide +kernel, ?_⟩
  rw [onOwnLines_diffLines _ _ hne]
  decide +kernel

end Report

end JavaText
