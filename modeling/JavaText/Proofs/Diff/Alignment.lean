import JavaText.Diff.Alignment
import Mathlib.Data.List.Chain
import Mathlib.Data.List.Infix

/-!
# Alignments add up to the lists

Whichever lines may be anchors, the longest run that the search finds is common to both lists
(`Run.isCommon_longest`): the numbers of a row stand for lines at whose ends both lists agree, and
extending a run takes in lines that agree. So the segments of an alignment have the lines of the
first list, and those of the second, in order (`Alignment.covers_of`). No change is empty
(`Alignment.allProper_of`), and no kept segment follows another (`Alignment.alternates_of`).
-/

namespace JavaText

namespace Run

variable {a b a₀ a₂ b₀ b₁ b₂ : List Text} {r : Run} {n : Nat}

/-! ## Common runs -/

/-- Both lists have the lines of a run, each where the run says. -/
def IsCommon (a b : List Text) (r : Run) : Prop :=
  ∃ a₁ a₂ b₁ b₂ lines : List Text, a = a₁ ++ lines ++ a₂ ∧ b = b₁ ++ lines ++ b₂ ∧
    r = ⟨a₁.length, b₁.length, lines.length⟩

/-- The last `n` lines of two lists agree. -/
def CommonEnd (a b : List Text) (n : Nat) : Prop :=
  ∃ lines : List Text, lines.length = n ∧ lines <:+ a ∧ lines <:+ b

/-- No lines are the last of any two lists. -/
theorem commonEnd_zero (a b : List Text) : CommonEnd a b 0 :=
  ⟨[], rfl, List.nil_suffix, List.nil_suffix⟩

/-- One more line at both ends makes one more line that agrees. -/
theorem CommonEnd.snoc (h : CommonEnd a b n) (x : Text) :
    CommonEnd (a ++ [x]) (b ++ [x]) (n + 1) := by
  obtain ⟨lines, rfl, ⟨a, rfl⟩, ⟨b, rfl⟩⟩ := h
  exact ⟨lines ++ [x], by rw [List.length_append, List.length_singleton],
    ⟨a, (List.append_assoc ..).symm⟩, ⟨b, (List.append_assoc ..).symm⟩⟩

/-- Lists that end alike have a common run there, whatever follows. -/
theorem CommonEnd.isCommon (h : CommonEnd a b n) (a₂ b₂ : List Text) :
    IsCommon (a ++ a₂) (b ++ b₂) ⟨a.length - n, b.length - n, n⟩ := by
  obtain ⟨lines, rfl, ⟨a, rfl⟩, ⟨b, rfl⟩⟩ := h
  exact ⟨a, a₂, b, b₂, lines, rfl, rfl, by simp⟩

/-! ## Rows -/

/-- The numbers of a row say, after one more line of the second list each, how many lines agree with
the end of the first. -/
inductive RowFits (a : List Text) : List Text → List Text → List Nat → Prop
  | nil (b₀ b₁ : List Text) : RowFits a b₀ b₁ []
  | cons {b₀ b₁ : List Text} {y : Text} {n : Nat} {row : List Nat}
    (h : CommonEnd a (b₀ ++ [y]) n) (hrow : RowFits a (b₀ ++ [y]) b₁ row) :
    RowFits a b₀ (y :: b₁) (n :: row)

/-- A row of zeros fits anywhere, as it claims nothing. -/
theorem rowFits_zero : ∀ b₀ b₁ : List Text, RowFits a b₀ b₁ (b₁.map fun _ => 0)
  | b₀, [] => .nil b₀ []
  | b₀, y :: b₁ => .cons (commonEnd_zero a _) (rowFits_zero (b₀ ++ [y]) b₁)

/-- One more line of the first list: what follows a number of the row before it fits. -/
theorem RowFits.zipWith {row : List Nat} (hrow : RowFits a b₀ b₁ row) (skip : List Text) (x : Text)
    {m : Nat} (hm : CommonEnd a b₀ m) :
    RowFits (a ++ [x]) b₀ b₁ (List.zipWith
      (fun y n => if x = y ∧ !skip.contains y then n + 1 else 0) b₁ (m :: row)) := by
  have hnext : ∀ {b₀ : List Text} (y : Text) {m : Nat}, CommonEnd a b₀ m →
      CommonEnd (a ++ [x]) (b₀ ++ [y]) (if x = y ∧ !skip.contains y then m + 1 else 0) := by
    intro b₀ y m hm
    split
    · next h =>
      obtain ⟨rfl, -⟩ := h
      exact hm.snoc x
    · exact commonEnd_zero _ _
  induction hrow generalizing m with
  | nil b₀ b₁ =>
    cases b₁ with
    | nil => exact .nil b₀ []
    | cons y b₁ =>
      rw [List.zipWith_cons_cons, List.zipWith_nil_right]
      exact .cons (hnext y hm) (.nil _ b₁)
  | @cons b₀ b₁ y n row h _ ih => exact .cons (hnext y hm) (ih h)

/-- The next row of the search fits the first list with one more line. -/
theorem RowFits.nextRow {row : List Nat} (hrow : RowFits a [] b row) (skip : List Text) (x : Text) :
    RowFits (a ++ [x]) [] b (nextRow skip x b row) :=
  hrow.zipWith skip x (commonEnd_zero a [])

/-- The best run so far is common after a row, since each number of the row stands for a common run.
-/
theorem isCommon_bestOfRow {row : List Nat} (hrow : RowFits a b₀ b₁ row) {i : Nat}
    (hi : a.length = i + 1) (hr : IsCommon (a ++ a₂) (b₀ ++ b₁) r) :
    IsCommon (a ++ a₂) (b₀ ++ b₁) (bestOfRow i b₀.length row r) := by
  induction hrow generalizing r with
  | nil => exact hr
  | @cons b₀ b₁ y n row h _ ih =>
    have hlength : (b₀ ++ [y]).length = b₀.length + 1 := by simp
    rw [List.append_cons b₀ y b₁] at hr ⊢
    rw [bestOfRow, ← hlength]
    refine ih ?_
    split
    · exact hi ▸ h.isCommon a₂ b₁
    · exact hr

/-- The search for the best run goes over rows that fit, so it ends with a common run. -/
theorem isCommon_bestFrom (skip : List Text) {row : List Nat} (hrow : RowFits a₀ [] b row)
    (hr : IsCommon (a₀ ++ a) b r) :
    IsCommon (a₀ ++ a) b (bestFrom skip b a₀.length a row r) := by
  induction a generalizing a₀ row r with
  | nil => exact hr
  | cons x a ih =>
    have hnext := hrow.nextRow skip x
    have hlength : (a₀ ++ [x]).length = a₀.length + 1 := by simp
    rw [List.append_cons a₀ x a] at hr ⊢
    rw [bestFrom, ← hlength]
    exact ih hnext (isCommon_bestOfRow hnext hlength hr)

/-! ## The longest run -/

/-- The shared start of two lists is the beginning of both. -/
theorem exists_sharedStart : ∀ xs ys : List Text, ∃ lines xs' ys' : List Text,
    xs = lines ++ xs' ∧ ys = lines ++ ys' ∧ lines.length = sharedStart xs ys
  | [], ys => ⟨[], [], ys, rfl, rfl, by simp [sharedStart]⟩
  | x :: xs, [] => ⟨[], x :: xs, [], rfl, rfl, by simp [sharedStart]⟩
  | x :: xs, y :: ys => by
    by_cases h : x = y
    · subst h
      obtain ⟨lines, xs', ys', hxs, hys, hlength⟩ := exists_sharedStart xs ys
      exact ⟨x :: lines, xs', ys', congrArg _ hxs, congrArg _ hys, by simp [sharedStart, hlength]⟩
    · exact ⟨[], x :: xs, y :: ys, rfl, rfl, by simp [sharedStart, h]⟩

/-- How far a run is extended, in terms of what is before and after it. -/
theorem extend_append (a₁ a₂ b₁ b₂ lines : List Text) :
    extend (a₁ ++ lines ++ a₂) (b₁ ++ lines ++ b₂) ⟨a₁.length, b₁.length, lines.length⟩ =
      ⟨a₁.length - sharedStart a₁.reverse b₁.reverse, b₁.length - sharedStart a₁.reverse b₁.reverse,
        sharedStart a₁.reverse b₁.reverse + lines.length + sharedStart a₂ b₂⟩ := by
  have htake : ∀ c₁ c₂ : List Text, (c₁ ++ lines ++ c₂).take c₁.length = c₁ := fun c₁ c₂ => by
    rw [List.append_assoc, List.take_left]
  have hdrop : ∀ c₁ c₂ : List Text, (c₁ ++ lines ++ c₂).drop (c₁.length + lines.length) = c₂ :=
    fun c₁ c₂ => by rw [← List.length_append, List.drop_left]
  simp only [extend, htake, hdrop]

/-- A common run that is extended on both sides is common. -/
theorem IsCommon.extend (h : IsCommon a b r) : IsCommon a b (extend a b r) := by
  obtain ⟨a₁, a₂, b₁, b₂, lines, rfl, rfl, rfl⟩ := h
  obtain ⟨before, a₀, b₀, ha₁, hb₁, hbefore⟩ := exists_sharedStart a₁.reverse b₁.reverse
  obtain ⟨after, a₃, b₃, ha₂, hb₂, hafter⟩ := exists_sharedStart a₂ b₂
  rw [List.reverse_eq_iff, List.reverse_append] at ha₁ hb₁
  rw [extend_append, ← hbefore, ← hafter, ha₁, hb₁, ha₂, hb₂]
  exact ⟨a₀.reverse, a₃, b₀.reverse, b₃, before.reverse ++ lines ++ after, by simp, by simp,
    by simp [Nat.add_assoc]⟩

/-- The longest run is common to both lists. -/
theorem isCommon_longest (skip a b : List Text) : IsCommon a b (longest skip a b) :=
  (isCommon_bestFrom skip (rowFits_zero [] b) ⟨[], a, [], b, [], rfl, rfl, rfl⟩).extend

end Run

namespace Alignment

variable {a a' b b' : List Text} {segments segments' : List Segment}

/-! ## Segments that cover two lists -/

/-- The lines of the segments are those of two lists. -/
structure Covers (segments : List Segment) (a b : List Text) : Prop where
  old : segments.flatMap Segment.old = a
  new : segments.flatMap Segment.new = b

theorem covers_nil : Covers [] [] [] :=
  ⟨rfl, rfl⟩

theorem covers_keep (lines : List Text) : Covers [.keep lines] lines lines :=
  ⟨List.append_nil lines, List.append_nil lines⟩

/-- A change covers the lines that it takes and those that it puts in their place. -/
theorem covers_change (a b : List Text) : Covers [.change a b] a b :=
  ⟨List.append_nil a, List.append_nil b⟩

/-- Segments that follow others cover the lists that follow theirs. -/
theorem Covers.append (h : Covers segments a b) (h' : Covers segments' a' b') :
    Covers (segments ++ segments') (a ++ a') (b ++ b') :=
  ⟨by rw [List.flatMap_append, h.old, h'.old], by rw [List.flatMap_append, h.new, h'.new]⟩

/-- What lists without a common run become covers them, with no segment if both are empty. -/
theorem covers_changed : ∀ a b : List Text, Covers (changed a b) a b
  | [], [] => covers_nil
  | [], y :: b => covers_change [] (y :: b)
  | x :: a, b => covers_change (x :: a) b

/-- What is before a common run, the run and what is after it cover both lists. -/
theorem covers_align (skip : List Text) (fuel : Nat) (a b : List Text) :
    Covers (align skip fuel a b) a b := by
  induction fuel generalizing a b with
  | zero => exact covers_changed a b
  | succ fuel ih =>
    rw [align]
    split
    · exact covers_changed a b
    · obtain ⟨a₁, a₂, b₁, b₂, lines, ha, hb, hr⟩ := Run.isCommon_longest skip a b
      have hlines : (a.drop a₁.length).take lines.length = lines := by
        rw [ha, List.append_assoc, List.drop_left, List.take_left]
      have hparts := ((ih (a.take a₁.length) (b.take b₁.length)).append (covers_keep lines)).append
        (ih (a.drop (a₁.length + lines.length)) (b.drop (b₁.length + lines.length)))
      rw [hr, hlines, List.append_cons]
      convert hparts using 1
      · rw [ha]; simp
      · rw [hb]; simp

/-- Kept segments that are made one have the same lines. -/
theorem flatMap_mergeKept {β : Type} {f : Segment → List β}
    (hf : ∀ x y, f (.keep (x ++ y)) = f (.keep x) ++ f (.keep y)) (segments : List Segment) :
    (mergeKept segments).flatMap f = segments.flatMap f := by
  fun_induction mergeKept segments with
  | case1 => rfl
  | case2 rest lines lines' rest' hrest ih =>
    rw [hrest] at ih
    rw [List.flatMap_cons, List.flatMap_cons, ← ih, List.flatMap_cons, hf, List.append_assoc]
  | case3 rest s _ ih => rw [List.flatMap_cons, List.flatMap_cons, ih]

/-- Making kept segments one leaves what the segments cover. -/
theorem Covers.mergeKept (h : Covers segments a b) : Covers (mergeKept segments) a b :=
  ⟨(flatMap_mergeKept (fun _ _ => rfl) segments).trans h.old,
    (flatMap_mergeKept (fun _ _ => rfl) segments).trans h.new⟩

/-- The segments of an alignment cover both lists. -/
theorem covers_of (a b : List Text) : Covers (of a b) a b :=
  (covers_align _ _ a b).mergeKept

/-! ## Changes that have lines -/

/-- No segment is an empty change. -/
def AllProper (segments : List Segment) : Prop :=
  ∀ s ∈ segments, s.isKept = false → s.old ++ s.new ≠ []

theorem allProper_nil : AllProper [] :=
  List.forall_mem_nil _

theorem allProper_cons {s : Segment} : AllProper (s :: segments) ↔
    (s.isKept = false → s.old ++ s.new ≠ []) ∧ AllProper segments :=
  List.forall_mem_cons

theorem allProper_append :
    AllProper (segments ++ segments') ↔ AllProper segments ∧ AllProper segments' :=
  List.forall_mem_append

theorem allProper_keep_cons {lines : List Text} :
    AllProper (.keep lines :: segments) ↔ AllProper segments :=
  allProper_cons.trans (and_iff_right nofun)

/-- Empty lists become no change at all, so no change is empty. -/
theorem allProper_changed : ∀ a b : List Text, AllProper (changed a b)
  | [], [] => allProper_nil
  | [], y :: b => allProper_cons.2 ⟨fun _ => List.cons_ne_nil y b, allProper_nil⟩
  | x :: a, b => allProper_cons.2 ⟨fun _ => List.cons_ne_nil x (a ++ b), allProper_nil⟩

/-- Only lists without a common run become a change. -/
theorem allProper_align (skip : List Text) (fuel : Nat) (a b : List Text) :
    AllProper (align skip fuel a b) := by
  induction fuel generalizing a b with
  | zero => exact allProper_changed a b
  | succ fuel ih =>
    rw [align]
    split
    · exact allProper_changed a b
    · exact allProper_append.2 ⟨ih _ _, allProper_keep_cons.2 (ih _ _)⟩

/-- Making kept segments one makes no change, so none that is empty. -/
theorem AllProper.mergeKept (h : AllProper segments) : AllProper (mergeKept segments) := by
  fun_induction Alignment.mergeKept segments with
  | case1 => exact h
  | case2 rest lines lines' rest' hrest ih =>
    have hmerged := ih (allProper_keep_cons.1 h)
    rw [hrest, allProper_keep_cons] at hmerged
    exact allProper_keep_cons.2 hmerged
  | case3 rest s _ ih =>
    rw [allProper_cons] at h
    exact allProper_cons.2 ⟨h.1, ih h.2⟩

/-- No change of an alignment is empty. -/
theorem allProper_of (a b : List Text) : AllProper (of a b) :=
  (allProper_align _ _ a b).mergeKept

/-! ## Segments that alternate -/

/-- No kept segment follows another. -/
def Alternates (segments : List Segment) : Prop :=
  (segments.map Segment.isKept).IsChain fun k l => ¬(k = true ∧ l = true)

/-- A segment alternates with those after it if it is not kept or the next is not. -/
theorem alternates_cons {s : Segment} : Alternates (s :: segments) ↔
    (s.isKept = true → ∀ s' ∈ segments.head?, s'.isKept = false) ∧ Alternates segments := by
  cases segments with
  | nil => simp [Alternates]
  | cons s' segments => simp [Alternates, List.isChain_cons_cons]

/-- Once kept segments are made one, none follows another. -/
theorem alternates_mergeKept (segments : List Segment) : Alternates (mergeKept segments) := by
  fun_induction mergeKept segments with
  | case1 => exact .nil
  | case2 rest lines lines' rest' hrest ih =>
    rw [hrest, alternates_cons] at ih
    exact alternates_cons.2 ⟨fun _ => ih.1 rfl, ih.2⟩
  | case3 rest s hne ih =>
    refine alternates_cons.2 ⟨fun hs s' hs' => ?_, ih⟩
    obtain ⟨rest', hrest⟩ := List.head?_eq_some_iff.1 hs'
    cases s with
    | change => cases hs
    | keep lines =>
      cases s' with
      | change => rfl
      | keep lines' => exact (hne lines lines' rest' rfl hrest).elim

/-- No kept segment of an alignment follows another. -/
theorem alternates_of (a b : List Text) : Alternates (of a b) :=
  alternates_mergeKept _

end Alignment

end JavaText
