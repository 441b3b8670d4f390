import JavaText.Text.Digit
import JavaText.Text.Lines
import Mathlib.Data.List.Pairwise

/-!
# Patches

A patch is a sequence of edits, each under a header that says which lines of two lists it is about
(`Patch.read?`). To apply it to the first list (`Patch.patched?`) is to go down the list, keep what
lies before an edit, find the lines there that the edit says the first list has, and put those of
the second list in their place. The lines that were kept and put have to bring every edit to where
it says it is in the second list.

If a patch can be applied and its ranges fit what it shows, the edits are in order and none reaches
into the next (`Patch.pairwise_of_patched?`).
-/

namespace JavaText

namespace Patch

/-- Which of the two lists has a line. -/
inductive Sign
  | both
  | old
  | new
  deriving DecidableEq, Repr

/-- A line of an edit. -/
structure Line where
  /-- Which list has the line. -/
  sign : Sign
  /-- The line with its line break. -/
  text : Text
  deriving DecidableEq, Repr

/-- Some lines of a list that follow one another. -/
structure Range where
  /-- The first of the lines, counted from one, or the line before if there are none. -/
  start : Nat
  /-- How many lines there are. -/
  length : Nat
  deriving DecidableEq, Repr

/-- A part of a patch: lines of either list and where they stand. -/
structure Edit where
  /-- Where the lines of the first list stand. -/
  old : Range
  /-- Where the lines of the second list stand. -/
  new : Range
  /-- The lines of both. -/
  lines : List Line
  deriving DecidableEq, Repr

/-! ## Reading a patch -/

/-- The number that the digits at the start of a text spell, and what follows them. -/
def readNumber? (t : Text) : Option (Nat × Text) :=
  let digits := t.takeWhile CodePoint.isAsciiDigit
  if digits = [] then none
  else some (digits.foldl (fun n c => 10 * n + (c.val - 0x30)) 0,
    t.dropWhile CodePoint.isAsciiDigit)

/-- A range at the start of a text, and what follows it. A length of one is left out. -/
def readRange? (t : Text) : Option (Range × Text) := do
  let (start, t) ← readNumber? t
  match Text.stripStart? "," t with
  | some t => do
    let (length, t) ← readNumber? t
    return (⟨start, length⟩, t)
  | none => return (⟨start, 1⟩, t)

/-- The ranges in a header. -/
def readHeader? (t : Text) : Option (Range × Range) := do
  let t ← Text.stripStart? "@@ -" t
  let (old, t) ← readRange? t
  let t ← Text.stripStart? " +" t
  let (new, t) ← readRange? t
  if t = Text.ofString " @@\n" then some (old, new) else none

/-- The character before a line that says which list has it. -/
def Sign.mark : Sign → CodePoint
  | both => ' '
  | old => '-'
  | new => '+'

/-- A line under a header. -/
def readLine? : Text → Option Line
  | [] => none
  | c :: t =>
    if c = Sign.both.mark then some ⟨.both, t⟩
    else if c = Sign.old.mark then some ⟨.old, t⟩
    else if c = Sign.new.mark then some ⟨.new, t⟩
    else none

/-- The edits among some lines of a patch, and the lines before the first header. -/
def readLines? : List Text → Option (List Line × List Edit)
  | [] => some ([], [])
  | l :: ls => do
    let (lines, edits) ← readLines? ls
    match readLine? l with
    | some line => return (line :: lines, edits)
    | none => do
      let (old, new) ← readHeader? l
      return ([], ⟨old, new, lines⟩ :: edits)

/-- The edits of a patch; it starts with a header. -/
def read? (t : Text) : Option (List Edit) :=
  match readLines? t.lines with
  | some ([], edits) => some edits
  | _ => none

/-! ## Applying a patch -/

/-- How many lines come before a range. -/
def Range.before (r : Range) : Nat :=
  if r.length = 0 then r.start else r.start - 1

namespace Edit

/-- The lines of the first list in an edit. -/
def before (e : Edit) : List Text :=
  (e.lines.filter (·.sign ≠ .new)).map Line.text

/-- The lines of the second list in an edit. -/
def after (e : Edit) : List Text :=
  (e.lines.filter (·.sign ≠ .old)).map Line.text

end Edit

/-- Apply edits to the lines that are left after `i` lines of the first list, which have become `j`
lines of the second. -/
def patched? (i j : Nat) : List Edit → List Text → Option (List Text)
  | [], a => some a
  | e :: es, a =>
    let gap := e.old.before - i
    let rest := a.drop gap
    if i ≤ e.old.before ∧ e.new.before = j + gap ∧ gap ≤ a.length
        ∧ rest.take e.before.length = e.before then
      (patched? (i + gap + e.before.length) (j + gap + e.after.length) es
        (rest.drop e.before.length)).map fun b => a.take gap ++ (e.after ++ b)
    else none

variable {i j : Nat} {e : Edit} {es : List Edit} {a b gap : List Text}

/-- An edit that stands after some lines that are kept. -/
theorem patched?_cons (es : List Edit) (a : List Text) (hold : e.old.before = i + gap.length)
    (hnew : e.new.before = j + gap.length) :
    patched? i j (e :: es) (gap ++ (e.before ++ a)) =
      (patched? (i + gap.length + e.before.length) (j + gap.length + e.after.length) es a).map
        fun b => gap ++ (e.after ++ b) := by
  have hgap : e.old.before - i = gap.length := by omega
  rw [patched?, hgap, List.drop_left, List.drop_left, List.take_left, List.take_left, if_pos]
  exact ⟨by omega, hnew, by simp, rfl⟩

/-- The lines of an edit that can be applied are lines of the lists. -/
theorem mem_or_mem_of_patched? (h : patched? i j es a = some b) :
    ∀ e ∈ es, ∀ l ∈ e.lines, l.text ∈ a ∨ l.text ∈ b := by
  induction es generalizing i j a b with
  | nil => exact List.forall_mem_nil _
  | cons e es ih =>
    rw [patched?] at h
    split at h
    · next hfound =>
      obtain ⟨b', hb', rfl⟩ := Option.map_eq_some_iff.1 h
      refine List.forall_mem_cons.2 ⟨fun l hl => ?_, fun e' he' l hl => ?_⟩
      · by_cases hnew : l.sign = .new
        · have hafter : l.text ∈ e.after := List.mem_map.2 ⟨l, by simp [hl, hnew], rfl⟩
          exact .inr (by simp [hafter])
        · have hbefore : l.text ∈ e.before := List.mem_map.2 ⟨l, by simp [hl, hnew], rfl⟩
          rw [← hfound.2.2.2] at hbefore
          exact .inl (List.mem_of_mem_drop (List.mem_of_mem_take hbefore))
      · rcases ih hb' e' he' l hl with hmem | hmem
        · exact .inl (List.mem_of_mem_drop (List.mem_of_mem_drop hmem))
        · exact .inr (by simp [hmem])
    · cases h

/-! ## Edits in order -/

/-- A range is as long as some lines, and its start counts from one. -/
def Range.Fits (r : Range) (lines : List Text) : Prop :=
  r.length = lines.length ∧ (r.length ≠ 0 → r.start ≠ 0)

/-- The ranges of an edit are those of its lines. -/
def Edit.Fits (e : Edit) : Prop :=
  e.old.Fits e.before ∧ e.new.Fits e.after

/-- An edit ends before another starts, in both lists. -/
def Edit.Precedes (e e' : Edit) : Prop :=
  e.old.before + e.old.length ≤ e'.old.before ∧ e.new.before + e.new.length ≤ e'.new.before

theorem forall_le_before_of_patched? (h : patched? i j es a = some b) (hes : ∀ e ∈ es, e.Fits) :
    (∀ e ∈ es, i ≤ e.old.before ∧ j ≤ e.new.before) ∧ es.Pairwise Edit.Precedes := by
  induction es generalizing i j a b with
  | nil => exact ⟨List.forall_mem_nil _, .nil⟩
  | cons e es ih =>
    rw [patched?] at h
    split at h
    · next hfound =>
      obtain ⟨hold, hnew, -, -⟩ := hfound
      obtain ⟨b', hb', -⟩ := Option.map_eq_some_iff.1 h
      obtain ⟨he, hes⟩ := List.forall_mem_cons.1 hes
      obtain ⟨hle, hpairwise⟩ := ih hb' hes
      have hlength := he.1.1
      have hlength' := he.2.1
      refine ⟨List.forall_mem_cons.2 ⟨by omega, fun e' he' => ?_⟩,
        List.pairwise_cons.2 ⟨fun e' he' => ?_, hpairwise⟩⟩
      · have hlater := hle e' he'
        omega
      · have hlater := hle e' he'
        exact ⟨by omega, by omega⟩
    · cases h

/-- The edits of a patch that can be applied are in order, and none reaches into the next. -/
theorem pairwise_of_patched? (h : patched? i j es a = some b) (hes : ∀ e ∈ es, e.Fits) :
    es.Pairwise Edit.Precedes :=
  (forall_le_before_of_patched? h hes).2

end Patch

end JavaText
