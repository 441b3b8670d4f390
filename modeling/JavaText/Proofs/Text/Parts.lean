import JavaText.Text.Basic

/-!
# Parts of a text

A text is split at a code point into the parts between its occurrences. Parts that do not hold the
code point come back when they are joined by it and split again (`Text.splitAt_join`).
-/

namespace JavaText

namespace Text

/-- What was put in front can be taken away. -/
theorem stripStart?_append : ∀ start t : Text, stripStart? start (start ++ t) = some t
  | [], t => rfl
  | c :: start, t => by rw [List.cons_append, stripStart?, if_pos rfl, stripStart?_append start t]

theorem splitAt_ne_nil (c : CodePoint) (t : Text) : splitAt c t ≠ [] := by
  cases t with
  | nil => simp [splitAt]
  | cons d t =>
    rw [splitAt]
    split
    · simp
    · split <;> simp

/-- A text is split at a separator into the parts on both sides. -/
theorem splitAt_append (c : CodePoint) (t u : Text) :
    splitAt c (t ++ c :: u) = splitAt c t ++ splitAt c u := by
  induction t with
  | nil => simp [splitAt]
  | cons d t ih =>
    rw [List.cons_append, splitAt, splitAt, ih]
    split
    · rfl
    · cases h : splitAt c t with
      | nil => exact absurd h (splitAt_ne_nil c t)
      | cons part parts => rfl

/-- A text without the separator is not split. -/
theorem splitAt_of_notMem {c : CodePoint} {t : Text} (h : c ∉ t) : splitAt c t = [t] := by
  induction t with
  | nil => rfl
  | cons d t ih =>
    rw [List.mem_cons, not_or] at h
    rw [splitAt, if_neg fun hd => h.1 hd.symm, ih h.2]

/-- Parts that are joined by a code point that none of them holds come back. -/
theorem splitAt_join {c : CodePoint} : ∀ {parts : List Text}, parts ≠ [] →
    (∀ part ∈ parts, c ∉ part) → splitAt c (join [c] parts) = parts
  | [part], _, h => splitAt_of_notMem (h part List.mem_cons_self)
  | part :: next :: rest, _, h => by
    obtain ⟨hpart, hrest⟩ := List.forall_mem_cons.1 h
    rw [join, List.append_assoc, List.singleton_append, splitAt_append, splitAt_of_notMem hpart,
      splitAt_join (List.cons_ne_nil next rest) hrest]
    rfl

end Text

end JavaText
