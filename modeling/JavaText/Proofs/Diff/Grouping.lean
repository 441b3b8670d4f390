import JavaText.Proofs.Diff.Alignment
import JavaText.Proofs.Diff.Written

/-!
# Grouping changes into hunks

The hunks of an alignment are a patch: what they leave out of it are kept lines, before the first
change, between changes that are far apart, and after the last. So applying their edits to the first
list gives the second (`Hunk.patched?_ofAlignment`). A hunk is closed only after a change, so each
of them shows one (`Hunk.exists_ne_both_of_mem_ofAlignment`).
-/

namespace JavaText

open JavaText.Alignment

namespace Hunk

variable {h : Hunk} {i j i₀ j₀ : Nat} {s : Segment} {segments rest : List Segment}
  {a b gap : List Text}

/-! ## One segment -/

/-- A segment over which a hunk goes on: a change, or kept lines that are not too many. -/
def IsShort (s : Segment) : Prop :=
  ∀ lines, s = .keep lines → lines.length ≤ 2 * context

theorem isShort_of_not_isKept (hs : s.isKept = false) : IsShort s := by
  rintro lines rfl
  cases hs

/-- Of too many kept lines, some belong to the hunk before, some to the one after, and the others to
none. -/
theorem isShort_or_exists (s : Segment) : IsShort s ∨ ∃ front middle back,
    s = .keep (front ++ (middle ++ back)) ∧ front.length = context ∧ back.length = context ∧
      middle ≠ [] := by
  cases s with
  | change old new => exact .inl nofun
  | keep lines =>
    rcases Nat.lt_or_ge (2 * context) lines.length with hlong | hshort
    · refine .inr ⟨lines.take context, (lines.drop context).take (lines.length - 2 * context),
        (lines.drop context).drop (lines.length - 2 * context), ?_, ?_, ?_, ?_⟩
      · rw [List.take_append_drop, List.take_append_drop]
      · rw [List.length_take]
        omega
      · rw [List.length_drop, List.length_drop]
        omega
      · rw [← List.length_pos_iff_ne_nil, List.length_take, List.length_drop]
        omega
    · refine .inl ?_
      rintro _ ⟨⟩
      exact hshort

theorem group_short (hs : IsShort s) :
    group h i j (s :: rest) =
      group { h with segments := h.segments ++ [s] } (i + s.old.length) (j + s.new.length)
        rest := by
  cases s with
  | keep lines => rw [group, if_neg (Nat.not_lt.2 (hs lines rfl))]
  | change old new => rw [group]

/-- Too many kept lines end a hunk and start the next. -/
theorem group_long {front middle back : List Text} (hfront : front.length = context)
    (hback : back.length = context) (hmiddle : middle ≠ []) :
    group h i j (.keep (front ++ (middle ++ back)) :: rest) =
      { h with segments := h.segments ++ [.keep front] } ::
        group ⟨i + front.length + middle.length, j + front.length + middle.length, [.keep back]⟩
          (i + front.length + middle.length + back.length)
          (j + front.length + middle.length + back.length) rest := by
  have hlength : (front ++ (middle ++ back)).length =
      front.length + middle.length + back.length := by simp [Nat.add_assoc]
  have hpos : 0 < middle.length := List.length_pos_iff_ne_nil.2 hmiddle
  have hlong : 2 * context < (front ++ (middle ++ back)).length := by omega
  have htake : (front ++ (middle ++ back)).take context = front := by
    rw [← hfront, List.take_left]
  have hdrop : (front ++ (middle ++ back)).drop
      ((front ++ (middle ++ back)).length - context) = back := by
    have hstart : (front ++ (middle ++ back)).length - context = (front ++ middle).length := by
      rw [hlength, hback, List.length_append]
      omega
    rw [hstart, ← List.append_assoc, List.drop_left]
  have hi : ∀ k, k + (front ++ (middle ++ back)).length - context =
      k + front.length + middle.length := by omega
  have hi' : ∀ k, k + (front ++ (middle ++ back)).length =
      k + front.length + middle.length + back.length := by omega
  rw [group, if_pos hlong, htake, hdrop, Segment.old, Segment.new, hi, hi, hi', hi']

/-! ## The hunks are a patch -/

theorem patched?_edit_cons {es : List Patch.Edit} (hold : h.oldStart = i₀ + gap.length)
    (hnew : h.newStart = j₀ + gap.length) :
    Patch.patched? i₀ j₀ (h.edit :: es) (gap ++ (h.segments.flatMap Segment.old ++ a)) =
      (Patch.patched? (h.oldStart + (h.segments.flatMap Segment.old).length)
        (h.newStart + (h.segments.flatMap Segment.new).length) es a).map
          fun b => gap ++ (h.segments.flatMap Segment.new ++ b) := by
  have happly := Patch.patched?_cons (e := h.edit) es a
    ((before_rangeOf ..).trans hold) ((before_rangeOf ..).trans hnew)
  rwa [before_edit, after_edit, ← hold, ← hnew] at happly

/-- Segments that are all kept have the same lines in both lists. -/
theorem flatMap_old_eq_new (hkept : ∀ s ∈ segments, s.isKept = true) :
    segments.flatMap Segment.old = segments.flatMap Segment.new := by
  refine List.flatMap_congr fun s hs => ?_
  cases s with
  | keep lines => rfl
  | change old new => cases hkept _ hs

/-- The hunks that are grouped from an open one on, which is reached after lines that are kept. -/
theorem patched?_group (rest : List Segment) (tail : List Text)
    (hold : h.oldStart = i₀ + gap.length) (hnew : h.newStart = j₀ + gap.length) :
    Patch.patched? i₀ j₀ ((group h (h.oldStart + (h.segments.flatMap Segment.old).length)
      (h.newStart + (h.segments.flatMap Segment.new).length) rest).map edit)
        (gap ++ (h.segments.flatMap Segment.old ++ (rest.flatMap Segment.old ++ tail))) =
      some (gap ++ (h.segments.flatMap Segment.new ++ (rest.flatMap Segment.new ++ tail))) := by
  induction rest generalizing h i₀ j₀ gap with
  | nil =>
    rw [group, close]
    split
    · rw [List.map_singleton, patched?_edit_cons hold hnew]
      rfl
    · next hkept =>
      rw [flatMap_old_eq_new (by simpa using hkept)]
      rfl
  | cons s rest ih =>
    rcases isShort_or_exists s with hs | ⟨front, middle, back, rfl, hfront, hback, hmiddle⟩
    · rw [group_short hs]
      have hnext := ih (h := { h with segments := h.segments ++ [s] }) hold hnew
      simpa [Nat.add_assoc] using hnext
    · rw [group_long hfront hback hmiddle, List.map_cons]
      have hlines : gap ++ (h.segments.flatMap Segment.old ++
          ((Segment.keep (front ++ (middle ++ back)) :: rest).flatMap Segment.old ++ tail)) =
          gap ++ ((h.segments ++ [Segment.keep front]).flatMap Segment.old ++
            (middle ++ ([Segment.keep back].flatMap Segment.old ++
              (rest.flatMap Segment.old ++ tail)))) := by simp [Segment.old]
      -- the next hunk is reached after the kept lines that belong to none
      have hnext := ih (h := ⟨h.oldStart + (h.segments.flatMap Segment.old).length + front.length
          + middle.length, h.newStart + (h.segments.flatMap Segment.new).length + front.length
          + middle.length, [.keep back]⟩) rfl rfl
      rw [hlines,
        patched?_edit_cons (h := { h with segments := h.segments ++ [.keep front] }) hold hnew]
      simp only [List.flatMap_append, List.flatMap_singleton, List.length_append, Segment.old,
        Segment.new, ← Nat.add_assoc] at hnext ⊢
      rw [hnext]
      simp [Segment.new]

/-! ## Every hunk shows a change -/

/-- Some segment is a change that has lines. -/
def HasChange (segments : List Segment) : Prop :=
  ∃ s ∈ segments, s.isKept = false ∧ s.old ++ s.new ≠ []

theorem HasChange.append (hchange : HasChange segments) (rest : List Segment) :
    HasChange (segments ++ rest) :=
  let ⟨s, hs, hlines⟩ := hchange
  ⟨s, List.mem_append_left rest hs, hlines⟩

/-- Where a hunk shows no change yet, it is not closed by what comes next: no two kept segments
follow one another. -/
theorem hasChange_of_mem_group (hh : AllProper h.segments) (hproper : AllProper rest)
    (halternates : Alternates rest) (hnext : HasChange h.segments ∨ ∀ s ∈ rest.head?, IsShort s) :
    ∀ h' ∈ group h i j rest, HasChange h'.segments := by
  induction rest generalizing h i j with
  | nil =>
    rw [group, close]
    split
    · next hany =>
      obtain ⟨s, hs, hkept⟩ := List.any_eq_true.1 hany
      rw [Bool.not_eq_true'] at hkept
      rw [List.forall_mem_singleton]
      exact ⟨s, hs, hkept, hh s hs hkept⟩
    · exact List.forall_mem_nil _
  | cons s rest ih =>
    rw [allProper_cons] at hproper
    rw [alternates_cons] at halternates
    have hkept : s.isKept = true → ∀ s' ∈ rest.head?, IsShort s' := fun hs s' hs' =>
      isShort_of_not_isKept (halternates.1 hs s' hs')
    rcases isShort_or_exists s with hs | ⟨front, middle, back, rfl, hfront, hback, hmiddle⟩
    · rw [group_short hs]
      refine ih (allProper_append.2 ⟨hh, allProper_cons.2 ⟨hproper.1, allProper_nil⟩⟩) hproper.2
        halternates.2 ?_
      cases hs' : s.isKept with
      | true => exact .inr (hkept hs')
      | false => exact .inl ⟨s, by simp, hs', hproper.1 hs'⟩
    · rw [group_long hfront hback hmiddle, List.forall_mem_cons]
      refine ⟨?_,
        ih (allProper_keep_cons.2 allProper_nil) hproper.2 halternates.2 (.inr (hkept rfl))⟩
      rcases hnext with hchange | hshort
      · exact hchange.append _
      · have hlength := hshort _ rfl _ rfl
        have hpos := List.length_pos_iff_ne_nil.2 hmiddle
        simp only [List.length_append] at hlength
        omega

/-- A change that has lines shows as lines that one list has. -/
theorem exists_ne_both_of_hasChange (hchange : HasChange h.segments) :
    ∃ l ∈ h.edit.lines, l.sign ≠ .both := by
  obtain ⟨s, hs, hkept, hlines⟩ := hchange
  cases s with
  | keep lines => cases hkept
  | change old new =>
    obtain ⟨line, hline⟩ := List.exists_mem_of_ne_nil _ hlines
    rcases List.mem_append.1 hline with hold | hnew
    · refine ⟨⟨.old, line⟩, List.mem_flatMap.2 ⟨_, hs, ?_⟩, nofun⟩
      exact List.mem_append_left _ (List.mem_map_of_mem hold)
    · refine ⟨⟨.new, line⟩, List.mem_flatMap.2 ⟨_, hs, ?_⟩, nofun⟩
      exact List.mem_append_right _ (List.mem_map_of_mem hnew)

/-! ## The ends of an alignment -/

/-- What is cut at the start are kept lines. -/
theorem covers_trimStart (hcovers : Covers segments a b) : ∃ gap a' b' : List Text,
    a = gap ++ a' ∧ b = gap ++ b' ∧ gap.length = (trimStart segments).1 ∧
      Covers (trimStart segments).2 a' b' := by
  obtain ⟨rfl, rfl⟩ := hcovers
  unfold trimStart
  split
  · next lines rest =>
    refine ⟨lines.take (lines.length - context), _, _, ?_, ?_, by simp, rfl, rfl⟩
    · simp only [List.flatMap_cons, Segment.old, ← List.append_assoc, List.take_append_drop]
    · simp only [List.flatMap_cons, Segment.new, ← List.append_assoc, List.take_append_drop]
  · exact ⟨[], _, _, rfl, rfl, rfl, rfl, rfl⟩

/-- What is cut at the end are kept lines. -/
theorem covers_trimEnd (hcovers : Covers segments a b) : ∃ a' b' tail : List Text,
    a = a' ++ tail ∧ b = b' ++ tail ∧ Covers (trimEnd segments) a' b' := by
  obtain ⟨rfl, rfl⟩ := hcovers
  fun_induction trimEnd segments with
  | case1 => exact ⟨[], [], [], rfl, rfl, rfl, rfl⟩
  | case2 lines =>
    refine ⟨_, _, lines.drop context, ?_, ?_, rfl, rfl⟩ <;>
      simp [Segment.old, Segment.new]
  | case3 s rest _ ih =>
    obtain ⟨a, b, tail, hold, hnew, hcovers⟩ := ih
    refine ⟨s.old ++ a, s.new ++ b, tail, ?_, ?_, ?_, ?_⟩
    · rw [List.flatMap_cons, hold, List.append_assoc]
    · rw [List.flatMap_cons, hnew, List.append_assoc]
    · rw [List.flatMap_cons, hcovers.old]
    · rw [List.flatMap_cons, hcovers.new]

theorem map_isKept_trimStart (segments : List Segment) :
    (trimStart segments).2.map Segment.isKept = segments.map Segment.isKept := by
  unfold trimStart
  split <;> rfl

theorem map_isKept_trimEnd (segments : List Segment) :
    (trimEnd segments).map Segment.isKept = segments.map Segment.isKept := by
  fun_induction trimEnd segments with
  | case1 => rfl
  | case2 lines => rfl
  | case3 s rest _ ih => rw [List.map_cons, List.map_cons, ih]

theorem allProper_trimStart (hproper : AllProper segments) : AllProper (trimStart segments).2 := by
  unfold trimStart
  split
  · exact allProper_keep_cons.2 (allProper_keep_cons.1 hproper)
  · exact hproper

theorem allProper_trimEnd (hproper : AllProper segments) : AllProper (trimEnd segments) := by
  fun_induction trimEnd segments with
  | case1 => exact hproper
  | case2 lines => exact allProper_keep_cons.2 allProper_nil
  | case3 s rest _ ih =>
    rw [allProper_cons] at hproper
    exact allProper_cons.2 ⟨hproper.1, ih hproper.2⟩

/-- So few lines are left of kept ones at the start that a hunk goes on over them. -/
theorem isShort_head_trimStart (segments : List Segment) :
    ∀ s ∈ (trimStart segments).2.head?, IsShort s := by
  unfold trimStart
  split
  · rintro _ ⟨⟩ _ ⟨⟩
    rw [List.length_drop]
    omega
  · next hne =>
    rintro s hs lines rfl
    obtain ⟨rest, rfl⟩ := List.head?_eq_some_iff.1 hs
    exact (hne lines rest rfl).elim

theorem isShort_head_trimEnd (hshort : ∀ s ∈ segments.head?, IsShort s) :
    ∀ s ∈ (trimEnd segments).head?, IsShort s := by
  unfold trimEnd
  split
  · exact nofun
  · rintro _ ⟨⟩ _ ⟨⟩
    rw [List.length_take]
    omega
  · exact hshort

/-! ## The hunks of an alignment -/

/-- Applying the hunks of an alignment of two lists to the first gives the second. -/
theorem patched?_ofAlignment (hcovers : Covers segments a b) :
    Patch.patched? 0 0 ((ofAlignment segments).map edit) a = some b := by
  obtain ⟨gap, a, b, rfl, rfl, hgap, hstart⟩ := covers_trimStart hcovers
  obtain ⟨a, b, tail, rfl, rfl, hend⟩ := covers_trimEnd hstart
  have hopen : (trimStart segments).1 = 0 + gap.length := by rw [hgap, Nat.zero_add]
  have happly := patched?_group (h := ⟨(trimStart segments).1, (trimStart segments).1, []⟩)
    (trimEnd (trimStart segments).2) tail hopen hopen
  rw [hend.old, hend.new] at happly
  exact happly

/-- Each hunk of an alignment has a line that only one of the lists has. -/
theorem exists_ne_both_of_mem_ofAlignment (hproper : AllProper segments)
    (halternates : Alternates segments) :
    ∀ h ∈ ofAlignment segments, ∃ l ∈ h.edit.lines, l.sign ≠ .both := by
  have hkept : Alternates (trimEnd (trimStart segments).2) := by
    rw [Alternates, map_isKept_trimEnd, map_isKept_trimStart]
    exact halternates
  exact fun h hmem => exists_ne_both_of_hasChange <|
    hasChange_of_mem_group allProper_nil (allProper_trimEnd (allProper_trimStart hproper)) hkept
      (.inr (isShort_head_trimEnd (isShort_head_trimStart segments))) h hmem

end Hunk

end JavaText
