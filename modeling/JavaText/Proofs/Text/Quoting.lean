import JavaText.Proofs.Encoding.Ascii
import JavaText.Proofs.Text.Numeral
import JavaText.Text.Quoted

/-!
# Reading quoted texts back

What stands between quotes is read character by character: a backslash and what follows it stand for
one character, and any other character stands for itself (`Text.readEscape`). This reads back
whatever is written, so different texts are quoted differently (`Text.quoted_injective`), and a
quoted text is on one line (`Text.lineFeed_notMem_quoted`).
-/

namespace JavaText

namespace Text

/-! ## Characters -/

/-- The first character of what stands between quotes, and what follows it. -/
def readEscape : Text → Option (CodePoint × Text)
  | [] => none
  | [c] => some (c, [])
  | c :: d :: t =>
    if c = backslash then
      match d.val with
      | 0x74 => some (.ofNat 0x09, t)
      | 0x6e => some (.ofNat 0x0a, t)
      | 0x72 => some (.ofNat 0x0d, t)
      | 0x78 => some (.ofNat (hexNumber (t.take 2)), t.drop 2)
      | 0x75 => some (.ofNat (hexNumber (t.take 4)), t.drop 4)
      | 0x55 => some (.ofNat (hexNumber (t.take 8)), t.drop 8)
      | _ => some (d, t)
    else some (c, d :: t)

theorem readEscape_of_ne {c : CodePoint} (hc : c ≠ backslash) (t : Text) :
    readEscape (c :: t) = some (c, t) := by
  cases t with
  | nil => rfl
  | cons d t => rw [readEscape, if_neg hc]

/-- Enough digits of a code point spell it. -/
theorem ofNat_hexNumber_hex {width : Nat} {c : CodePoint} (h : c.val < 16 ^ width) :
    CodePoint.ofNat (hexNumber (hex width c.val)) = c := by
  rw [hexNumber_hex, Nat.mod_eq_of_lt h, CodePoint.ofNat_val]

/-- The shortest of the three forms that fits is read as the number that it was written for. -/
theorem readEscape_numericEscape (c : CodePoint) (t : Text) :
    readEscape (numericEscape c ++ t) = some (c, t) := by
  have hx : (CodePoint.ofChar 'x').val = 0x78 := by decide
  have hu : (CodePoint.ofChar 'u').val = 0x75 := by decide
  have hU : (CodePoint.ofChar 'U').val = 0x55 := by decide
  unfold numericEscape
  split
  · next h =>
    have hwidth : c.val < 16 ^ 2 := h
    simp [readEscape, hx, take_hex_append, drop_hex_append, ofNat_hexNumber_hex hwidth]
  · split
    · next h =>
      have hwidth : c.val < 16 ^ 4 := h
      simp [readEscape, hu, take_hex_append, drop_hex_append, ofNat_hexNumber_hex hwidth]
    · have hwidth : c.val < 16 ^ 8 := Nat.lt_trans c.isLt (by decide)
      simp [readEscape, hU, take_hex_append, drop_hex_append, ofNat_hexNumber_hex hwidth]

/-- One of the two quotes. -/
def IsQuote (c : CodePoint) : Prop :=
  c = singleQuote ∨ c = doubleQuote

theorem isQuote_quoteFor (t : Text) : IsQuote t.quoteFor := by
  unfold quoteFor
  split
  · exact .inr rfl
  · exact .inl rfl

variable {quote : CodePoint}

/-- A character is read as what it was written for. -/
theorem readEscape_escape (hquote : IsQuote quote) (c : CodePoint) (t : Text) :
    readEscape (escape quote c ++ t) = some (c, t) := by
  have ht : (CodePoint.ofChar 't').val = 0x74 := by decide
  have hn : (CodePoint.ofChar 'n').val = 0x6e := by decide
  have hr : (CodePoint.ofChar 'r').val = 0x72 := by decide
  unfold escape
  split
  · next h =>
    have hval : c.val = 0x27 ∨ c.val = 0x22 ∨ c.val = 0x5c := by
      rcases h with rfl | rfl
      · rcases hquote with rfl | rfl
        · exact .inl rfl
        · exact .inr (.inl rfl)
      · exact .inr (.inr rfl)
    rcases hval with hval | hval | hval <;> simp [readEscape, hval]
  · next h =>
    have hbackslash : c ≠ backslash := fun hc => h (.inr hc)
    split
    · next hval => simp [readEscape, ht, ← hval, CodePoint.ofNat_val]
    · next hval => simp [readEscape, hn, ← hval, CodePoint.ofNat_val]
    · next hval => simp [readEscape, hr, ← hval, CodePoint.ofNat_val]
    · split
      · exact readEscape_of_ne hbackslash t
      · exact readEscape_numericEscape c t

/-! ## Texts -/

/-- What stands between two quotes is read back character by character. -/
theorem eq_of_flatMap_escape_eq (hquote : IsQuote quote) {t u : Text}
    (h : t.flatMap (escape quote) = u.flatMap (escape quote)) : t = u := by
  induction t generalizing u with
  | nil =>
    cases u with
    | nil => rfl
    | cons d u =>
      have hread := readEscape_escape hquote d (u.flatMap (escape quote))
      rw [← List.flatMap_cons, ← h] at hread
      exact nomatch hread
  | cons c t ih =>
    have hread := readEscape_escape hquote c (t.flatMap (escape quote))
    rw [← List.flatMap_cons, h] at hread
    cases u with
    | nil => exact nomatch hread
    | cons d u =>
      rw [List.flatMap_cons, readEscape_escape hquote, Option.some_inj, Prod.mk.injEq] at hread
      rw [hread.1, ih hread.2.symm]

/-- Different texts are quoted differently. -/
theorem quoted_injective : Function.Injective quoted := by
  intro t u h
  obtain ⟨hquote, hbody⟩ := List.cons.inj h
  rw [hquote] at hbody
  exact eq_of_flatMap_escape_eq (isQuote_quoteFor u) (List.append_cancel_right hbody)

/-! ## One line -/

theorem lineFeed_notMem_numericEscape (c : CodePoint) :
    CodePoint.ofChar '\n' ∉ numericEscape c := by
  have hdigits : ∀ width n : Nat, CodePoint.ofChar '\n' ∉ hex width n := fun width n h =>
    forall_mem_hex (P := (· ≠ CodePoint.ofChar '\n')) (by decide) width n _ h rfl
  have hne : CodePoint.ofChar '\n' ≠ backslash ∧ CodePoint.ofChar '\n' ≠ CodePoint.ofChar 'x' ∧
      CodePoint.ofChar '\n' ≠ CodePoint.ofChar 'u' ∧
      CodePoint.ofChar '\n' ≠ CodePoint.ofChar 'U' := by decide
  unfold numericEscape
  split
  · simp [hne, hdigits]
  · split <;> simp [hne, hdigits]

theorem lineFeed_ne_quote (hquote : IsQuote quote) : CodePoint.ofChar '\n' ≠ quote := by
  rcases hquote with rfl | rfl <;> decide

theorem lineFeed_notMem_escape (hquote : IsQuote quote) (c : CodePoint) :
    CodePoint.ofChar '\n' ∉ escape quote c := by
  have hbackslash : CodePoint.ofChar '\n' ≠ backslash := by decide
  have hletters : CodePoint.ofChar '\n' ≠ CodePoint.ofChar 't' ∧
      CodePoint.ofChar '\n' ≠ CodePoint.ofChar 'n' ∧
      CodePoint.ofChar '\n' ≠ CodePoint.ofChar 'r' := by decide
  unfold escape
  split
  · next h =>
    have hc : CodePoint.ofChar '\n' ≠ c := by
      rintro rfl
      exact h.elim (lineFeed_ne_quote hquote) hbackslash
    simp [hbackslash, hc]
  · split
    · simp [hbackslash, hletters]
    · simp [hbackslash, hletters]
    · simp [hbackslash, hletters]
    · next hval _ =>
      split
      · rw [List.mem_singleton]
        rintro rfl
        exact hval (by decide)
      · exact lineFeed_notMem_numericEscape c

/-- A quoted text is on one line. -/
theorem lineFeed_notMem_quoted (t : Text) : CodePoint.ofChar '\n' ∉ quoted t := by
  have hquote := isQuote_quoteFor t
  have hbody : CodePoint.ofChar '\n' ∉ t.flatMap (escape t.quoteFor) := fun h =>
    let ⟨c, _, hc⟩ := List.mem_flatMap.1 h
    lineFeed_notMem_escape hquote c hc
  simp [quoted, lineFeed_ne_quote hquote, hbody]

end Text

end JavaText
