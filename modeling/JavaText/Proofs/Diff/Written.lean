import JavaText.Diff.Hunk
import JavaText.Proofs.Diff.Patch
import JavaText.Proofs.Text.Lines
import JavaText.Proofs.Text.Numeral
import JavaText.Proofs.Text.Parts
import Mathlib.Data.List.Basic

/-!
# Reading written hunks

A hunk is written as an edit of a patch (`Hunk.edit`): the ranges in its header fit the lines under
it (`Hunk.fits_edit`), and where line feeds end all of these, what is written of hunks is read as
their edits (`Hunk.read?_flatMap_text`).
-/

namespace JavaText

namespace Patch

/-- A numeral is read up to the character after it, which is no digit. -/
theorem readNumber?_ofNat (n : Nat) {c : CodePoint} (hc : c.isAsciiDigit = false) (t : Text) :
    readNumber? (Text.ofNat n ++ c :: t) = some (n, c :: t) := by
  have hdigits : ∀ d ∈ Text.ofNat n, d.isAsciiDigit = true := fun _ =>
    Text.isAsciiDigit_of_mem_ofNat
  have hstop : ¬c.isAsciiDigit = true := by simp [hc]
  rw [readNumber?, List.takeWhile_append_of_pos hdigits, List.dropWhile_append_of_pos hdigits,
    List.takeWhile_cons_of_neg hstop, List.dropWhile_cons_of_neg hstop, List.append_nil,
    Text.foldl_ofNat]
  exact if_neg (Text.ofNat_ne_nil n)

/-- A line of an edit with its mark before it. -/
def Line.written (l : Line) : Text :=
  l.sign.mark :: l.text

theorem readLine?_written (l : Line) : readLine? l.written = some l := by
  obtain ⟨sign, text⟩ := l
  cases sign <;> rfl

/-- The lines of an edit and those of the ones after it are read. -/
theorem readLines?_written_append {rest : List Text} {lines : List Line} {es : List Edit}
    (h : readLines? rest = some (lines, es)) : ∀ ls : List Line,
      readLines? (ls.map Line.written ++ rest) = some (ls ++ lines, es)
  | [] => h
  | l :: ls => by
    rw [List.map_cons, List.cons_append, readLines?, readLines?_written_append h ls,
      readLine?_written]
    rfl

end Patch

namespace Hunk

/-! ## The edit that a hunk is -/

/-- The lines of a segment with their signs. -/
def segmentLines : Segment → List Patch.Line
  | .keep lines => lines.map fun line => ⟨.both, line⟩
  | .change old new => old.map (fun line => ⟨.old, line⟩) ++ new.map fun line => ⟨.new, line⟩

/-- So many lines after others. -/
def rangeOf (start length : Nat) : Patch.Range :=
  ⟨if length = 0 then start else start + 1, length⟩

/-- The edit that a hunk is. -/
def edit (h : Hunk) : Patch.Edit where
  old := rangeOf h.oldStart (h.segments.flatMap Segment.old).length
  new := rangeOf h.newStart (h.segments.flatMap Segment.new).length
  lines := h.segments.flatMap segmentLines

theorem before_rangeOf (start length : Nat) : (rangeOf start length).before = start := by
  unfold rangeOf Patch.Range.before
  split <;> simp_all

theorem before_edit (h : Hunk) : h.edit.before = h.segments.flatMap Segment.old := by
  rw [edit, Patch.Edit.before, List.filter_flatMap, List.map_flatMap]
  refine List.flatMap_congr fun s _ => ?_
  cases s <;> simp [segmentLines, Segment.old, List.filter_map, Function.comp_def]

theorem after_edit (h : Hunk) : h.edit.after = h.segments.flatMap Segment.new := by
  rw [edit, Patch.Edit.after, List.filter_flatMap, List.map_flatMap]
  refine List.flatMap_congr fun s _ => ?_
  cases s <;> simp [segmentLines, Segment.new, List.filter_map, Function.comp_def]

theorem fits_rangeOf {start : Nat} {lines : List Text} :
    (rangeOf start lines.length).Fits lines := by
  refine ⟨rfl, fun hne => ?_⟩
  have hstart : (rangeOf start lines.length).start = start + 1 := if_neg hne
  rw [hstart]
  exact Nat.succ_ne_zero start

/-- The ranges of a hunk are those of its lines. -/
theorem fits_edit (h : Hunk) : h.edit.Fits :=
  ⟨h.before_edit ▸ fits_rangeOf, h.after_edit ▸ fits_rangeOf⟩

/-! ## Reading hunks -/

theorem readRange?_range (start length : Nat) (t : Text) :
    Patch.readRange? (range start length ++ CodePoint.ofChar ' ' :: t) =
      some (rangeOf start length, CodePoint.ofChar ' ' :: t) := by
  have hcomma : (CodePoint.ofChar ',').isAsciiDigit = false := by decide
  have hspace : (CodePoint.ofChar ' ').isAsciiDigit = false := by decide
  have hnone : Text.stripStart? "," (CodePoint.ofChar ' ' :: t) = none := rfl
  have hsome : ∀ u : Text, Text.stripStart? "," (CodePoint.ofChar ',' :: u) = some u := fun _ => rfl
  unfold range
  split
  · next h =>
    simp only [Patch.readRange?, Patch.readNumber?_ofNat _ hspace, hnone, Option.bind_eq_bind,
      Option.bind_some]
    rw [h]
    rfl
  · have hseparator : Text.ofString "," = [CodePoint.ofChar ','] := rfl
    rw [hseparator, List.append_assoc, List.append_assoc, List.singleton_append]
    simp only [Patch.readRange?, Patch.readNumber?_ofNat _ hcomma, hsome,
      Patch.readNumber?_ofNat _ hspace, Option.bind_eq_bind, Option.bind_some]
    rfl

theorem readHeader?_header (h : Hunk) :
    Patch.readHeader? h.header = some (h.edit.old, h.edit.new) := by
  have hold : ∀ t : Text, Patch.readRange? (range h.oldStart
      (h.segments.flatMap Segment.old).length ++ (Text.ofString " +" ++ t)) =
        some (h.edit.old, Text.ofString " +" ++ t) := fun t =>
    readRange?_range _ _ (CodePoint.ofChar '+' :: t)
  have hnew : Patch.readRange? (range h.newStart (h.segments.flatMap Segment.new).length ++
      Text.ofString " @@\n") = some (h.edit.new, Text.ofString " @@\n") :=
    readRange?_range _ _ (Text.ofString "@@\n")
  simp only [header, List.append_assoc, Patch.readHeader?, Text.stripStart?_append, hold, hnew,
    Option.bind_eq_bind, Option.bind_some, if_true]

/-- The lines of a hunk as it is written. -/
def writtenLines (h : Hunk) : List Text :=
  h.header :: h.edit.lines.map Patch.Line.written

theorem text_eq_flatten (h : Hunk) : h.text = h.writtenLines.flatten := by
  have hsegment : ∀ s : Segment, segmentText s = (segmentLines s).flatMap Patch.Line.written := by
    intro s
    cases s <;> simp [segmentText, segmentLines, List.flatMap_map, Patch.Line.written,
      Patch.Sign.mark]
  rw [text, writtenLines, edit, List.flatten_cons, ← List.flatMap_def, List.flatMap_assoc]
  exact congrArg _ (List.flatMap_congr fun s _ => hsegment s)

/-- A header is no line of an edit. -/
theorem readLine?_header (h : Hunk) : Patch.readLine? h.header = none := by
  rw [header, List.append_assoc, List.append_assoc, List.append_assoc]
  rfl

theorem isLineBreak_of_mem_range {start length : Nat} :
    ∀ c ∈ range start length, c.isLineBreak = false := by
  have hdigits : ∀ n : Nat, ∀ c ∈ Text.ofNat n, c.isLineBreak = false := by
    intro n c hc
    have hdigit := Text.isAsciiDigit_of_mem_ofNat hc
    simp only [CodePoint.isAsciiDigit, Bool.and_eq_true, decide_eq_true_eq] at hdigit
    simp only [CodePoint.isLineBreak, Bool.or_eq_false_iff, Bool.and_eq_false_iff,
      decide_eq_false_iff_not, beq_eq_false_iff_ne, ne_eq]
    omega
  have hcomma : ∀ c ∈ Text.ofString ",", c.isLineBreak = false :=
    Text.isLineBreak_of_all (by decide)
  unfold range
  split
  · exact hdigits _
  · rw [List.forall_mem_append, List.forall_mem_append]
    exact ⟨⟨hdigits _, hcomma⟩, hdigits _⟩

theorem isLine_header (h : Hunk) : Text.IsLine h.header := by
  have hstart : ∀ c ∈ Text.ofString "@@ -", c.isLineBreak = false :=
    Text.isLineBreak_of_all (by decide)
  have hplus : ∀ c ∈ Text.ofString " +", c.isLineBreak = false :=
    Text.isLineBreak_of_all (by decide)
  have hend : ∀ c ∈ Text.ofString " @@", c.isLineBreak = false :=
    Text.isLineBreak_of_all (by decide)
  refine ⟨Text.ofString "@@ -" ++ range h.oldStart (h.segments.flatMap Segment.old).length
    ++ Text.ofString " +" ++ range h.newStart (h.segments.flatMap Segment.new).length
    ++ Text.ofString " @@", by rw [List.append_assoc _ (Text.ofString " @@")]; rfl, ?_⟩
  simp only [List.forall_mem_append]
  exact ⟨⟨⟨⟨hstart, isLineBreak_of_mem_range⟩, hplus⟩, isLineBreak_of_mem_range⟩, hend⟩

theorem isLine_of_mem_writtenLines {h : Hunk} (hlines : ∀ l ∈ h.edit.lines, l.text.IsLine) :
    ∀ l ∈ h.writtenLines, Text.IsLine l := by
  have hmark : ∀ sign : Patch.Sign, sign.mark.isLineBreak = false := by
    intro sign
    cases sign <;> decide
  rw [writtenLines, List.forall_mem_cons, List.forall_mem_map]
  exact ⟨h.isLine_header, fun l hl => (hlines l hl).cons (hmark l.sign)⟩

theorem readLines?_writtenLines : ∀ hs : List Hunk,
    Patch.readLines? (hs.flatMap writtenLines) = some ([], hs.map edit)
  | [] => rfl
  | h :: hs => by
    have hrest := Patch.readLines?_written_append (readLines?_writtenLines hs) h.edit.lines
    rw [List.flatMap_cons, writtenLines, List.cons_append, Patch.readLines?, hrest,
      readLine?_header, readHeader?_header, List.append_nil]
    rfl

/-- What is written of hunks is their lines one after another. -/
theorem flatMap_text (hs : List Hunk) : hs.flatMap text = (hs.flatMap writtenLines).flatten := by
  rw [← List.flatMap_id, List.flatMap_assoc]
  exact List.flatMap_congr fun h _ => by rw [List.flatMap_id, text_eq_flatten]

/-- Hunks whose lines all end in line feeds are read as their edits. -/
theorem read?_flatMap_text {hs : List Hunk} (hlines : ∀ h ∈ hs, ∀ l ∈ h.edit.lines, l.text.IsLine) :
    Patch.read? (hs.flatMap text) = some (hs.map edit) := by
  have hall : ∀ l ∈ hs.flatMap writtenLines, Text.IsLine l := by
    intro l hl
    obtain ⟨h, hh, hl⟩ := List.mem_flatMap.1 hl
    exact isLine_of_mem_writtenLines (hlines h hh) l hl
  rw [Patch.read?, flatMap_text, Text.lines_flatten hall, readLines?_writtenLines]

end Hunk

end JavaText
