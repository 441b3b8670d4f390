import JavaText.Text.Lines

/-!
# Texts of whole lines

A line of the plain kind ends with a line feed and holds no other character that ends a line
(`Text.IsLine`). Such lines one after another make a text whose lines they are
(`Text.lines_flatten`).

Whatever pieces are put one after another behind a text, each of them begins a line
(`Text.OnOwnLines`) just if all but the last end in line feeds.
-/

namespace JavaText

namespace Text

variable {l : Text}

/-- A line feed ends the line, and nothing before it does. -/
def IsLine (l : Text) : Prop :=
  ∃ body : Text, l = body ++ [CodePoint.ofChar '\n'] ∧ ∀ c ∈ body, c.isLineBreak = false

/-- A text consists of lines that line feeds end, with no other line break in it. -/
def IsLined (t : Text) : Prop :=
  ∃ ls : List Text, (∀ l ∈ ls, IsLine l) ∧ t = ls.flatten

/-- A text in which no character breaks a line. -/
theorem isLineBreak_of_all {t : Text} (h : t.all (!·.isLineBreak) = true) :
    ∀ c ∈ t, c.isLineBreak = false := by
  simpa using h

theorem lines_lineFeed (t : Text) :
    lines (CodePoint.ofChar '\n' :: t) = [CodePoint.ofChar '\n'] :: lines t := by
  have hbreak : (CodePoint.ofChar '\n').isLineBreak = true := by decide
  have hreturn : ((CodePoint.ofChar '\n').val == 0x0d) = false := by decide
  cases t with
  | nil => rfl
  | cons d t => rw [lines, hbreak, hreturn, Bool.false_and, Bool.not_false, Bool.and_true,
      if_pos rfl]

/-- A line that is put before a text is the first line. -/
theorem IsLine.lines_append (h : IsLine l) (t : Text) : lines (l ++ t) = l :: lines t := by
  obtain ⟨body, rfl, hbody⟩ := h
  induction body with
  | nil => exact lines_lineFeed t
  | cons c body ih =>
    obtain ⟨hc, hbody⟩ := List.forall_mem_cons.1 hbody
    have hrest := ih hbody
    -- a line goes on after a character only if the text does
    cases hbody : body ++ [CodePoint.ofChar '\n'] with
    | nil => exact absurd hbody (by simp)
    | cons d rest =>
      rw [hbody] at hrest
      rw [List.cons_append, hbody, List.cons_append, List.cons_append, lines, hc, Bool.false_and,
        if_neg Bool.false_ne_true, ← List.cons_append, hrest]
      rfl

/-- Lines one after another are split into these lines. -/
theorem lines_flatten {ls : List Text} (h : ∀ l ∈ ls, IsLine l) : lines ls.flatten = ls := by
  induction ls with
  | nil => rfl
  | cons l ls ih =>
    obtain ⟨hl, hls⟩ := List.forall_mem_cons.1 h
    rw [List.flatten_cons, hl.lines_append, ih hls]

theorem IsLined.isLine_of_mem {t : Text} (h : IsLined t) : ∀ l ∈ lines t, IsLine l := by
  obtain ⟨ls, hls, rfl⟩ := h
  rwa [lines_flatten hls]

/-- Texts on one line, each followed by a line feed. -/
theorem isLined_of_all (bodies : List Text)
    (h : bodies.all fun body => body.all (!·.isLineBreak)) :
    IsLined (bodies.flatMap fun body => body ++ [CodePoint.ofChar '\n']) := by
  refine ⟨_, List.forall_mem_map.2 fun body hbody => ?_, List.flatMap_def ..⟩
  exact ⟨body, rfl, isLineBreak_of_all (List.all_eq_true.1 h body hbody)⟩

/-- A character that ends no line may stand before a line. -/
theorem IsLine.cons {c : CodePoint} (hc : c.isLineBreak = false) (h : IsLine l) :
    IsLine (c :: l) := by
  obtain ⟨body, rfl, hbody⟩ := h
  exact ⟨c :: body, rfl, List.forall_mem_cons.2 ⟨hc, hbody⟩⟩

/-- Texts with different lines are different. -/
theorem lines_injective : Function.Injective lines := fun t u h => by
  rw [← flatten_lines t, h, flatten_lines]

/-! ## Pieces on lines of their own -/

variable {start t : Text} {piece : Text} {pieces : List Text}

/-- The last character of a text is a line feed. -/
def EndsInFeed (t : Text) : Prop :=
  t.getLast? = some (CodePoint.ofChar '\n')

instance (t : Text) : Decidable t.EndsInFeed :=
  inferInstanceAs (Decidable (_ = _))

theorem EndsInFeed.ne_nil (h : t.EndsInFeed) : t ≠ [] := by
  rintro rfl
  cases h

theorem IsLine.endsInFeed (h : IsLine l) : l.EndsInFeed := by
  obtain ⟨body, rfl, -⟩ := h
  exact List.getLast?_concat

/-- A text ends as what follows ends, if that is not empty. -/
theorem endsInFeed_append (h : piece ≠ []) : (t ++ piece).EndsInFeed ↔ piece.EndsInFeed := by
  obtain rfl | ⟨init, c, rfl⟩ := List.eq_nil_or_concat piece
  · exact absurd rfl h
  · rw [EndsInFeed, EndsInFeed, List.concat_eq_append, ← List.append_assoc, List.getLast?_concat,
      List.getLast?_concat]

/-- Each of some pieces that stand one after another behind a text begins after a line feed. -/
def OnOwnLines (start : Text) (pieces : List Text) : Prop :=
  ∀ before piece after, pieces = before ++ piece :: after → (start ++ before.flatten).EndsInFeed

theorem onOwnLines_nil : OnOwnLines start [] := by
  intro before piece after h
  simp at h

/-- A piece stands on lines of its own if a line ends before it and the next pieces do after it. -/
theorem onOwnLines_cons :
    OnOwnLines start (piece :: pieces) ↔ start.EndsInFeed ∧ OnOwnLines (start ++ piece) pieces := by
  constructor
  · intro h
    refine ⟨by simpa using h [] piece pieces rfl, fun before next after heq => ?_⟩
    simpa using h (piece :: before) next after (by rw [heq, List.cons_append])
  · rintro ⟨hstart, hrest⟩ before next after heq
    cases before with
    | nil => simpa using hstart
    | cons first before =>
      obtain ⟨rfl, htail⟩ := List.cons.inj heq
      simpa using hrest before next after htail

/-- Behind a line feed, pieces begin on lines of their own if all but the last end in line feeds. -/
theorem onOwnLines_iff : ∀ {pieces : List Text} {start : Text}, start.EndsInFeed →
    (∀ p ∈ pieces, p ≠ []) → (OnOwnLines start pieces ↔ ∀ p ∈ pieces.dropLast, p.EndsInFeed)
  | [], _, _, _ => by simp [onOwnLines_nil]
  | [piece], _, hstart, _ => by simp [onOwnLines_cons, onOwnLines_nil, hstart]
  | piece :: next :: pieces, start, hstart, hne => by
    obtain ⟨hpiece, hrest⟩ := List.forall_mem_cons.1 hne
    rw [onOwnLines_cons, and_iff_right hstart, List.dropLast_cons_cons, List.forall_mem_cons]
    by_cases hfeed : piece.EndsInFeed
    · rw [onOwnLines_iff ((endsInFeed_append hpiece).2 hfeed) hrest, and_iff_right hfeed]
    · rw [onOwnLines_cons, endsInFeed_append hpiece]
      simp only [hfeed, false_and]

end Text

end JavaText
