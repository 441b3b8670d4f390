import JavaText.Proofs.Regex.Membership

/-!
# Languages without a common text

Two expressions can often be told apart without a look at single texts: their texts start with
different characters (`Regex.startsApart`), or each text of one of them has a character that no text
of the other one has (`Regex.leaves`). Where all texts of an expression start with one and the same
character, it is left to tell apart what may follow that character in both. `Regex.apart` looks
for such a reason; if it finds one, no text belongs to both languages
(`Regex.not_matches_of_apart`).

Sets of characters are told apart by runs of code points that hold them, which need not be exact.
-/

namespace JavaText

/-! ## Sets of characters -/

namespace CharSet

/-- Runs of code points that hold all of a set. -/
def spans : CharSet → List (Nat × Nat)
  | single c => [(c.val, c.val)]
  | range first last => [(first.val, last.val)]
  | blank => blankRanges
  | digit => digitRanges
  | word => wordRanges
  | all => [(0, 0x10ffff)]
  | union a b => a.spans ++ b.spans
  | compl _ => [(0, 0x10ffff)]

/-- Whether the runs of two sets can be seen to be separate. -/
def separate (a b : CharSet) : Bool :=
  a.spans.all fun r => b.spans.all fun q => r.2 < q.1 || q.2 < r.1

/-- Whether each set of one list is separate from each set of another. -/
def allSeparate (as bs : List CharSet) : Bool :=
  as.all fun a => bs.all a.separate

variable {a b : CharSet} {c : CodePoint}

/-- A character of a set is in one of its spans. -/
theorem exists_span : ∀ {a : CharSet}, a.contains c = true →
    ∃ r ∈ a.spans, r.1 ≤ c.val ∧ c.val ≤ r.2
  | single d, h => ⟨(d.val, d.val), by simp [spans], by simp_all [contains]⟩
  | range first last, h => ⟨(first.val, last.val), by simp [spans], by simpa [contains] using h⟩
  | blank, h | digit, h | word, h => by
    obtain ⟨r, hr, hc⟩ := List.any_eq_true.1 h
    exact ⟨r, hr, by simpa using hc⟩
  | all, _ | compl _, _ => ⟨(0, 0x10ffff), by simp [spans], Nat.zero_le _, Nat.le_of_lt_succ c.isLt⟩
  | union a b, h => by
    rcases Bool.or_eq_true_iff.1 h with h | h
    · obtain ⟨r, hr, hc⟩ := exists_span h
      exact ⟨r, List.mem_append_left _ hr, hc⟩
    · obtain ⟨r, hr, hc⟩ := exists_span h
      exact ⟨r, List.mem_append_right _ hr, hc⟩

/-- Separate sets have no character in common. -/
theorem not_contains_of_separate (h : a.separate b = true) (ha : a.contains c = true) :
    b.contains c ≠ true := by
  intro hb
  obtain ⟨r, hr, hrc, hcr⟩ := exists_span ha
  obtain ⟨q, hq, hqc, hcq⟩ := exists_span hb
  have hrq := List.all_eq_true.1 (List.all_eq_true.1 h r hr) q hq
  simp only [Bool.or_eq_true, decide_eq_true_eq] at hrq
  omega

/-- Nor do the sets of two lists if each is separate from each. -/
theorem not_contains_of_allSeparate {as bs : List CharSet} (h : allSeparate as bs = true)
    (ha : ∃ a ∈ as, a.contains c = true) (hb : ∃ b ∈ bs, b.contains c = true) : False := by
  obtain ⟨a, has, hac⟩ := ha
  obtain ⟨b, hbs, hbc⟩ := hb
  exact not_contains_of_separate (List.all_eq_true.1 (List.all_eq_true.1 h a has) b hbs) hac hbc

end CharSet

namespace Regex

variable {r s : Regex} {c : CodePoint} {t : Text}

/-! ## The characters of texts -/

/-- Sets that hold the first characters of the texts of a language. -/
def heads : Regex → List CharSet
  | empty => []
  | chars a => [a]
  | seq r s => r.heads ++ if r.nullable then s.heads else []
  | alt r s => r.heads ++ s.heads
  | star r => r.heads

/-- Sets that hold the characters of the texts of a language. -/
def letters : Regex → List CharSet
  | empty => []
  | chars a => [a]
  | seq r s => r.letters ++ s.letters
  | alt r s => r.letters ++ s.letters
  | star r => r.letters

/-- Whether each text of a language can be seen to have a character that is in none of some sets. -/
def leaves (as : List CharSet) : Regex → Bool
  | empty => false
  | chars a => CharSet.allSeparate [a] as
  | seq r s => r.leaves as || s.leaves as
  | alt r s => r.leaves as && s.leaves as
  | star _ => false

/-- A text that matches starts with one of the first characters. -/
theorem exists_head : ∀ {r : Regex} {t : Text}, Matches r (c :: t) →
    ∃ a ∈ r.heads, a.contains c = true
  | .empty, t, h => by cases h
  | .chars a, t, h => by
    obtain ⟨d, hd, hcd⟩ := matches_chars.1 h
    obtain ⟨rfl, -⟩ := List.cons.inj hcd
    exact ⟨a, by simp [heads], hd⟩
  | .seq r s, t, h => by
    rcases matches_seq_cons.1 h with ⟨u, v, -, hu, -⟩ | ⟨hr, hs⟩
    · obtain ⟨a, ha, hc⟩ := exists_head hu
      exact ⟨a, List.mem_append_left _ ha, hc⟩
    · obtain ⟨a, ha, hc⟩ := exists_head hs
      refine ⟨a, List.mem_append_right _ ?_, hc⟩
      rwa [if_pos (nullable_iff.2 hr)]
  | .alt r s, t, h => by
    rcases matches_alt.1 h with h | h
    · obtain ⟨a, ha, hc⟩ := exists_head h
      exact ⟨a, List.mem_append_left _ ha, hc⟩
    · obtain ⟨a, ha, hc⟩ := exists_head h
      exact ⟨a, List.mem_append_right _ ha, hc⟩
  | .star r, t, h => by
    obtain ⟨u, v, -, hu, -⟩ := matches_star_cons.1 h
    obtain ⟨a, ha, hc⟩ := exists_head hu
    exact ⟨a, ha, hc⟩

/-- Its characters are letters of the expression. -/
theorem exists_letter (h : Matches r t) (hc : c ∈ t) : ∃ a ∈ r.letters, a.contains c = true := by
  induction h with
  | empty | stop => cases hc
  | @chars a d hd =>
    rw [List.mem_singleton.1 hc]
    exact ⟨a, by simp [letters], hd⟩
  | seq _ _ ihr ihs =>
    rcases List.mem_append.1 hc with hc | hc
    · obtain ⟨a, ha, hac⟩ := ihr hc
      exact ⟨a, List.mem_append_left _ ha, hac⟩
    · obtain ⟨a, ha, hac⟩ := ihs hc
      exact ⟨a, List.mem_append_right _ ha, hac⟩
  | left _ ih =>
    obtain ⟨a, ha, hac⟩ := ih hc
    exact ⟨a, List.mem_append_left _ ha, hac⟩
  | right _ ih =>
    obtain ⟨a, ha, hac⟩ := ih hc
    exact ⟨a, List.mem_append_right _ ha, hac⟩
  | more _ _ ihr ihs =>
    rcases List.mem_append.1 hc with hc | hc
    · exact ihr hc
    · exact ihs hc

/-- If an expression leaves some sets, its texts have a character outside of them. -/
theorem exists_outside {as : List CharSet} (hr : r.leaves as = true) (h : Matches r t) :
    ∃ c ∈ t, ∀ a ∈ as, a.contains c ≠ true := by
  induction h with
  | empty | stop | more => cases hr
  | @chars a d hd =>
    refine ⟨d, List.mem_singleton_self d, fun b hb hbd => ?_⟩
    exact CharSet.not_contains_of_allSeparate hr ⟨a, List.mem_singleton_self a, hd⟩ ⟨b, hb, hbd⟩
  | seq _ _ ihr ihs =>
    rcases Bool.or_eq_true_iff.1 hr with hr | hr
    · obtain ⟨c, hc, hout⟩ := ihr hr
      exact ⟨c, List.mem_append_left _ hc, hout⟩
    · obtain ⟨c, hc, hout⟩ := ihs hr
      exact ⟨c, List.mem_append_right _ hc, hout⟩
  | left _ ih => exact ih (Bool.and_eq_true_iff.1 hr).1
  | right _ ih => exact ih (Bool.and_eq_true_iff.1 hr).2

/-! ## Telling languages apart -/

/-- Whether the first characters of texts tell two languages apart. -/
def startsApart (r s : Regex) : Bool :=
  !r.nullable && CharSet.allSeparate r.heads s.heads

/-- Whether two languages are told apart by first characters or by a character that the texts of
one of them need and those of the other one lack. The alternatives of the first expression may
be told apart from the second one for different reasons. -/
def differs : Regex → Regex → Bool
  | alt r r', s => r.differs s && r'.differs s
  | r, s => r.startsApart s || r.leaves s.letters || s.leaves r.letters

/-- Whether two languages are told apart, if need be after common first characters, of which so many
are passed over at most. -/
def apart : Nat → Regex → Regex → Bool
  | 0, r, s => r.differs s
  | n + 1, r, s =>
    r.differs s || !r.nullable && match r.heads with
      | [.single c] => (r.after c).all fun x => (s.after c).all fun y => apart n x y
      | _ => false

/-- Expressions that start apart have no text in common. -/
theorem not_matches_of_startsApart (h : r.startsApart s = true) (hr : Matches r t) :
    ¬Matches s t := by
  intro hs
  obtain ⟨hnull, hheads⟩ := Bool.and_eq_true_iff.1 h
  cases t with
  | nil => simp [nullable_iff.2 hr] at hnull
  | cons c t => exact CharSet.not_contains_of_allSeparate hheads (exists_head hr) (exists_head hs)

/-- Nor have expressions if one has to leave the letters of the other. -/
theorem not_matches_of_leaves (h : r.leaves s.letters = true) (hr : Matches r t) :
    ¬Matches s t := by
  intro hs
  obtain ⟨c, hc, hout⟩ := exists_outside h hr
  obtain ⟨a, ha, hac⟩ := exists_letter hs hc
  exact hout a ha hac

/-- Expressions that are found to differ have no text in common. -/
theorem not_matches_of_differs : ∀ {r : Regex}, r.differs s = true → Matches r t → ¬Matches s t
  | .alt r r', h, hr => by
    obtain ⟨h, h'⟩ := Bool.and_eq_true_iff.1 h
    rcases matches_alt.1 hr with hr | hr
    · exact not_matches_of_differs h hr
    · exact not_matches_of_differs h' hr
  | .empty, h, hr | .chars _, h, hr | .seq _ _, h, hr | .star _, h, hr => by
    simp only [differs, Bool.or_eq_true] at h
    rcases h with (h | h) | h
    · exact not_matches_of_startsApart h hr
    · exact not_matches_of_leaves h hr
    · exact fun hs => not_matches_of_leaves h hs hr

/-- No text belongs to two languages that are told apart. -/
theorem not_matches_of_apart : ∀ {n : Nat} {r s : Regex} {t : Text}, apart n r s = true →
    Matches r t → ¬Matches s t
  | 0, r, s, t, h, hr => not_matches_of_differs h hr
  | n + 1, r, s, t, h, hr => by
    intro hs
    rcases Bool.or_eq_true_iff.1 h with h | h
    · exact not_matches_of_differs h hr hs
    obtain ⟨hnull, hafter⟩ := Bool.and_eq_true_iff.1 h
    split at hafter
    · next d hheads =>
      cases t with
      | nil => simp [nullable_iff.2 hr] at hnull
      | cons c t =>
        obtain ⟨a, ha, hc⟩ := exists_head hr
        rw [hheads, List.mem_singleton] at ha
        obtain rfl : d = c := by
          rw [ha] at hc
          exact beq_iff_eq.1 hc
        obtain ⟨x, hx, hxt⟩ := matches_cons_iff.1 hr
        obtain ⟨y, hy, hyt⟩ := matches_cons_iff.1 hs
        have hxy := List.all_eq_true.1 (List.all_eq_true.1 hafter x hx) y hy
        exact not_matches_of_apart hxy hxt hyt
    · cases hafter

end Regex

end JavaText
