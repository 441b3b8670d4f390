import JavaText.Proofs.Canonical.Moved
import JavaText.Proofs.Lexeme.Disjoint

/-!
# Comments

A text is a comment just if it is anything between `/*` and `*/`
(`TokenKind.isComment_iff`), so an end delimiter may be inside it: a comment, then code, and then a
further end delimiter is a comment as a whole, and as such it leaves no trace in a canonical text.
`TokenKind.comments_of_text` says for which texts this happens: those where what stands between
the delimiters has an end delimiter of its own.
-/

namespace JavaText

/-! ## First occurrences -/

namespace Text

/-- Before the first place where a text has a part, it does not have it. -/
theorem exists_first_infix {u t : Text} (hu : u ≠ []) (h : u <:+: t) :
    ∃ before after, t = before ++ u ++ after ∧ ¬u <:+: before := by
  induction hn : t.length using Nat.strongRecOn generalizing t with
  | _ n ih =>
    obtain ⟨before, after, rfl⟩ := h
    by_cases hbefore : u <:+: before
    · have hlt : before.length < n := by
        have hpos := List.length_pos_iff.2 hu
        simp only [List.length_append] at hn
        omega
      obtain ⟨first, rest, rfl, hfirst⟩ := ih _ hlt hbefore rfl
      exact ⟨first, rest ++ u ++ after, by simp, hfirst⟩
    · exact ⟨before, after, rfl, hbefore⟩

end Text

/-! ## The language of comments -/

namespace Lexeme

variable {t u v body : Text}

/-- What starts a comment. -/
def opener : Text := "/*"

/-- What ends a comment. -/
def closer : Text := "*/"

theorem matches_between :
    (Regex.sequence [.lit u, anything, .lit v]).Matches t ↔ ∃ body, t = u ++ body ++ v := by
  change (Regex.seq (.lit u) (.seq anything (.lit v))).Matches t ↔ _
  constructor
  · intro h
    obtain ⟨_, _, rfl, hu, hrest⟩ := Regex.matches_seq.1 h
    obtain ⟨body, _, rfl, -, hv⟩ := Regex.matches_seq.1 hrest
    rw [Regex.matches_lit.1 hu, Regex.matches_lit.1 hv]
    exact ⟨body, (List.append_assoc ..).symm⟩
  · rintro ⟨body, rfl⟩
    rw [List.append_assoc]
    exact .seq (Regex.matches_lit.2 rfl) (.seq (matches_anything body) (Regex.matches_lit.2 rfl))

theorem matches_blockComment : blockComment.Matches t ↔ ∃ body, t = opener ++ body ++ closer :=
  matches_between

theorem matches_docComment :
    docComment.Matches t ↔ ∃ body, t = opener ++ (CodePoint.ofChar '*' :: body) ++ closer :=
  matches_between

/-- An end delimiter is at an index of a text. -/
def ClosesAt (t : Text) (i : Nat) : Prop :=
  closer <+: t.drop i

instance (t : Text) (i : Nat) : Decidable (ClosesAt t i) :=
  inferInstanceAs (Decidable (closer <+: t.drop i))

/-- The first end delimiter after the two characters that start a comment is the end of the
text. -/
def ClosesAtEnd (t : Text) : Prop :=
  ∃ i, 2 ≤ i ∧ i + 2 = t.length ∧ ClosesAt t i ∧ ∀ j, 2 ≤ j → j < i → ¬ClosesAt t j

/-- Past the opening delimiter, an index is one of what comes after it. -/
theorem closesAt_opener (i : Nat) : ClosesAt (opener ++ t) (2 + i) ↔ closer <+: t.drop i := by
  rw [ClosesAt, ← List.drop_drop]
  rfl

/-- The start of an end delimiter and another one are not an end delimiter together, so one that
starts before the last one ends before it. -/
theorem closer_prefix_append (hbody : body ≠ []) : closer <+: body ++ closer ↔ closer <+: body := by
  have hcloser : closer = [CodePoint.ofChar '*', CodePoint.ofChar '/'] := rfl
  constructor
  · intro h
    rcases body with _ | ⟨a, _ | ⟨b, body⟩⟩
    · exact absurd rfl hbody
    · rw [hcloser, List.singleton_append, List.cons_prefix_cons, List.cons_prefix_cons] at h
      exact absurd h.2.1 (by decide)
    · rw [hcloser, List.cons_append, List.cons_append, List.cons_prefix_cons,
        List.cons_prefix_cons] at h
      exact ⟨body, by rw [hcloser, h.1, h.2.1]; rfl⟩
  · intro h
    exact h.trans (List.prefix_append _ _)

theorem closer_infix_iff : closer <:+: body ↔ ∃ i < body.length, closer <+: body.drop i := by
  constructor
  · rintro ⟨before, after, rfl⟩
    refine ⟨before.length, ?_, after, ?_⟩
    · simp [closer, Text.ofString]
    · rw [List.append_assoc, List.drop_left]
  · rintro ⟨i, -, h⟩
    exact h.isInfix.trans (List.drop_suffix i body).isInfix

/-- A comment closes at its end only, unless what stands between its delimiters has an end
delimiter. -/
theorem closesAtEnd_iff : ClosesAtEnd (opener ++ body ++ closer) ↔ ¬closer <:+: body := by
  have hdrop : ∀ i < body.length, ClosesAt (opener ++ body ++ closer) (2 + i) ↔
      closer <+: body.drop i := by
    intro i hi
    rw [List.append_assoc, closesAt_opener, List.drop_append_of_le_length (Nat.le_of_lt hi),
      closer_prefix_append (List.drop_eq_nil_iff.not.2 (Nat.not_le_of_lt hi))]
  have hlength : (opener ++ body ++ closer).length = 2 + body.length + 2 := by
    rw [List.length_append, List.length_append]
    rfl
  rw [closer_infix_iff, ClosesAtEnd, hlength]
  constructor
  · rintro ⟨i, -, hi, -, hfirst⟩ ⟨j, hj, hat⟩
    exact hfirst (2 + j) (by omega) (by omega) ((hdrop j hj).2 hat)
  · intro h
    refine ⟨2 + body.length, by omega, rfl, ?_, fun j hj hlt hat => ?_⟩
    · rw [List.append_assoc, closesAt_opener]
      exact ⟨[], by rw [List.drop_left, List.append_nil]⟩
    · obtain ⟨i, rfl⟩ := Nat.exists_eq_add_of_le hj
      have hi : i < body.length := by omega
      exact h ⟨i, hi, (hdrop i hi).1 hat⟩

end Lexeme

/-! ## Which texts are comments -/

namespace TokenKind

open Lexeme

variable {t body : Text}

/-- A text is of one of the two kinds of comments between delimiters. -/
def IsComment (t : Text) : Prop :=
  ofText? t = some (.trivia .blockComment) ∨ ofText? t = some (.trivia .docComment)

instance (t : Text) : Decidable (IsComment t) :=
  inferInstanceAs (Decidable (_ ∨ _))

/-- A text that has one of the shapes is found to have it, but a comment may be found to be one for
documentation. -/
theorem find?_shapes {b : Regex × TokenKind} (hb : b ∈ shapes) (hbt : b.1.accepts t = true) :
    shapes.find? (fun shape => shape.1.accepts t) = some b ∨
      b = blockEntry ∧ shapes.find? (fun shape => shape.1.accepts t) = some docEntry := by
  cases hfind : shapes.find? fun shape => shape.1.accepts t with
  | none => exact absurd hbt (List.find?_eq_none.1 hfind b hb)
  | some a =>
    have ha := List.mem_of_find?_eq_some hfind
    have hat := List.find?_some hfind
    rcases exclusive ha hb hat hbt with rfl | ⟨rfl, rfl⟩ | ⟨rfl, rfl⟩
    · exact Or.inl rfl
    · exact Or.inr ⟨rfl, rfl⟩
    · exact absurd hfind (find?_ne_of_sublist nodup_shapes (by decide +kernel) hbt)

/-- No text that all tokens of a kind have starts like a comment. -/
theorem fixedText?_ne_opener (k : TokenKind) (t : Text) : k.fixedText? ≠ some (opener ++ t) := by
  have h : all.all (fun k => k.fixedText?.all fun u => !opener.isPrefixOf u) = true := by
    decide +kernel
  intro hk
  have hall := List.all_eq_true.1 h k k.mem_all
  rw [hk, Option.all_some, List.isPrefixOf_iff_prefix.2 (List.prefix_append opener t)] at hall
  cases hall

/-- What starts like a comment is classified by its shape. -/
theorem ofText?_opener (t : Text) : ofText? (opener ++ t) = first? shapes (opener ++ t) :=
  ofText?_eq_first? fun k => fixedText?_ne_opener k t

/-- A kind of token without a fixed text is that of texts that have its shape. -/
theorem matches_of_ofText? {r : Regex} {k : TokenKind} (hk : k.fixedText? = none)
    (hr : ∀ shape ∈ shapes, shape.2 = k → shape.1 = r) (h : ofText? t = some k) :
    r.Matches t := by
  have hfixed : ∀ l : TokenKind, l.fixedText? ≠ some t := by
    intro l hl
    obtain rfl : l = k := Option.some.inj ((ofText?_of_fixedText? hl).symm.trans h)
    rw [hk] at hl
    cases hl
  rw [ofText?_eq_first? hfixed, first?_eq_some] at h
  obtain ⟨before, r', after, hshapes, hmatches, -⟩ := h
  exact hr (r', k) (by simp [hshapes]) rfl ▸ hmatches

theorem ofText?_docComment :
    ofText? t = some (.trivia .docComment) ↔
      ∃ body, t = opener ++ (CodePoint.ofChar '*' :: body) ++ closer := by
  rw [← matches_docComment]
  constructor
  · exact matches_of_ofText? rfl (by decide +kernel)
  · intro h
    obtain ⟨body, rfl⟩ := matches_docComment.1 h
    rw [List.append_assoc] at h ⊢
    rw [ofText?_opener, first?]
    have hdoc : docEntry.1.accepts _ = true := Regex.accepts_iff.2 h
    rcases find?_shapes (by simp [shapes, docEntry]) hdoc with hfind | ⟨hentry, -⟩
    · rw [hfind]
      rfl
    · exact absurd hentry (by decide +kernel)

/-- Comments are the texts between the two delimiters, which do not overlap. -/
theorem isComment_iff : IsComment t ↔ ∃ body, t = opener ++ body ++ closer := by
  rw [← matches_blockComment]
  constructor
  · rintro (h | h)
    · exact matches_of_ofText? rfl (by decide +kernel) h
    · exact blockComment_of_docComment (matches_of_ofText? rfl (by decide +kernel) h)
  · intro h
    obtain ⟨body, rfl⟩ := matches_blockComment.1 h
    rw [List.append_assoc] at h ⊢
    rw [IsComment, ofText?_opener, first?]
    have hblock : blockEntry.1.accepts _ = true := Regex.accepts_iff.2 h
    rcases find?_shapes (by simp [shapes, blockEntry]) hblock with hfind | ⟨-, hfind⟩
    · exact Or.inl (by rw [hfind]; rfl)
    · exact Or.inr (by rw [hfind]; rfl)

/-! ## Comments with code in them -/

/-- A comment that closes before its end is a comment that closes at its end, then any code, and
then one more end delimiter. -/
theorem not_closesAtEnd_iff : IsComment t ∧ ¬ClosesAtEnd t ↔
    ∃ comment code, IsComment comment ∧ ClosesAtEnd comment ∧ t = comment ++ code ++ closer := by
  constructor
  · rintro ⟨ht, hend⟩
    obtain ⟨body, rfl⟩ := isComment_iff.1 ht
    rw [closesAtEnd_iff, not_not] at hend
    obtain ⟨first, code, rfl, hfirst⟩ := Text.exists_first_infix (by decide) hend
    exact ⟨opener ++ first ++ closer, code, isComment_iff.2 ⟨first, rfl⟩, closesAtEnd_iff.2 hfirst,
      by simp only [List.append_assoc]⟩
  · rintro ⟨comment, code, hcomment, -, rfl⟩
    obtain ⟨first, rfl⟩ := isComment_iff.1 hcomment
    have htext : opener ++ first ++ closer ++ code ++ closer =
        opener ++ (first ++ closer ++ code) ++ closer := by simp only [List.append_assoc]
    rw [htext, closesAtEnd_iff, not_not]
    exact ⟨isComment_iff.2 ⟨_, rfl⟩, first, code, rfl⟩

/-- A token of the kind of a comment is not written. -/
theorem write_comment {k : TokenKind} (ht : IsComment t) (hk : ofText? t = some k)
    (p : Surroundings) (d : Draft) :
    (Tree.token { kind := some (.token k), text := some t }).write p d = d := by
  have htrivia : k.isTrivia = true := by
    rcases ht with h | h
    · rw [← Option.some.inj (h.symm.trans hk)]
      rfl
    · rw [← Option.some.inj (h.symm.trans hk)]
      rfl
  rw [Tree.write, Draft.writeToken, if_neg]
  simp [Token.isVisible, Kind.isTrivia, htrivia]

/-- The texts that are classified as comments, and so left out of canonical texts, are all texts
between the delimiters; those for documentation have an asterisk more at their start. Such a text
closes at its end only if no end delimiter is in between. All others are a comment that does, with
code after it and an end delimiter after the code. -/
theorem comments_of_text (t : Text) :
    (IsComment t ↔ ∃ body, t = opener ++ body ++ closer) ∧
    (ofText? t = some (.trivia .docComment) ↔
      ∃ body, t = opener ++ (CodePoint.ofChar '*' :: body) ++ closer) ∧
    (∀ k, IsComment t → ofText? t = some k → ∀ p d,
      (Tree.token { kind := some (.token k), text := some t }).write p d = d) ∧
    (IsComment t ∧ ClosesAtEnd t ↔
      ∃ body, t = opener ++ body ++ closer ∧ ¬closer <:+: body) ∧
    (IsComment t ∧ ¬ClosesAtEnd t ↔
      ∃ comment code, IsComment comment ∧ ClosesAtEnd comment ∧
        t = comment ++ code ++ closer) := by
  refine ⟨isComment_iff, ofText?_docComment, fun k => write_comment, ?_, not_closesAtEnd_iff⟩
  constructor
  · rintro ⟨ht, hend⟩
    obtain ⟨body, rfl⟩ := isComment_iff.1 ht
    exact ⟨body, rfl, closesAtEnd_iff.1 hend⟩
  · rintro ⟨body, rfl, hbody⟩
    exact ⟨isComment_iff.2 ⟨body, rfl⟩, closesAtEnd_iff.2 hbody⟩

/-- In two comments with a name between them the first end delimiter is not at the end. -/
theorem not_closesAtEnd_two : ¬ClosesAtEnd "/* a */ x /* b */" := by
  rintro ⟨i, -, hi, -, hfirst⟩
  obtain rfl : i = 15 := Nat.add_right_cancel hi
  exact hfirst 5 (by decide) (by decide) (by decide)

/-- The name between two comments is left out with them. -/
theorem comments_of_text_around_name :
    IsComment "/* a */ x /* b */" ∧
    ofText? "/* a */ x /* b */" = some (.trivia .blockComment) ∧
    (Tree.token ⟨some (.token (.trivia .blockComment)), some "/* a */ x /* b */"⟩).write
      .outermost .empty = .empty ∧
    ∃ comment code, IsComment comment ∧ ClosesAtEnd comment ∧
      Text.ofString "/* a */ x /* b */" = comment ++ code ++ closer := by
  have hkind : ofText? "/* a */ x /* b */" = some (.trivia .blockComment) := by decide +kernel
  have hcomment : IsComment "/* a */ x /* b */" := Or.inl hkind
  obtain ⟨-, -, hwrite, -, hsplit⟩ := comments_of_text "/* a */ x /* b */"
  exact ⟨hcomment, hkind, hwrite _ hcomment hkind _ _,
    hsplit.1 ⟨hcomment, not_closesAtEnd_two⟩⟩

/-- Two comments with a name between them are classified as one comment. -/
theorem ofText?_two_comments :
    ofText? "/* a */ x /* b */" = some (.trivia .blockComment) ∧
    ¬ClosesAtEnd "/* a */ x /* b */" :=
  ⟨by decide +kernel, not_closesAtEnd_two⟩

end TokenKind

end JavaText
