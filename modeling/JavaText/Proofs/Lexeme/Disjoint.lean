import JavaText.Proofs.Lexeme.Classification
import JavaText.Proofs.Regex.Apart

/-!
# Each text has one shape

No text has two of the shapes of tokens, except that a documentation comment is a comment too
(`Lexeme.pairwise_shapes`). Most shapes are told apart by their first characters, numbers by a
letter that one of them needs and the others lack, and the rest after two characters that they
have in common. So the order in which the shapes are tried matters for the two comments only
(`Lexeme.first?_of_perm`), and fixed texts are tried first for the sake of keywords alone, which
are names otherwise.
-/

namespace JavaText

theorem Symbol.mem_all (s : Symbol) : s ∈ all := by
  cases s <;> decide

theorem Keyword.mem_all (w : Keyword) : w ∈ all := by
  cases w <;> decide

namespace Lexeme

variable {text : Text}

/-- The shape of a documentation comment with its kind. -/
def docEntry : Regex × TokenKind :=
  (docComment, .trivia .docComment)

/-- The shape of a comment between delimiters with its kind. -/
def blockEntry : Regex × TokenKind :=
  (blockComment, .trivia .blockComment)

/-- Shapes are told apart within two characters, but for the two kinds of comments that may be
longer than a line. -/
theorem pairwise_apart : shapes.Pairwise fun a b =>
    Regex.apart 2 a.1 b.1 = true ∨ a = docEntry ∧ b = blockEntry := by
  decide +kernel

theorem pairwise_shapes : shapes.Pairwise fun a b => ∀ text,
    a.1.accepts text = true → b.1.accepts text = true → a = docEntry ∧ b = blockEntry := by
  refine pairwise_apart.imp fun {a b} hab text ha hb => ?_
  rcases hab with hab | hab
  · exact absurd (Regex.accepts_iff.1 hb) (Regex.not_matches_of_apart hab (Regex.accepts_iff.1 ha))
  · exact hab

theorem matches_anything : ∀ text : Text, anything.Matches text
  | [] => .stop
  | _ :: text => .more (.chars rfl) (matches_anything text)

/-- A documentation comment is a comment: its second asterisk is read as part of the content. -/
theorem blockComment_of_docComment (h : docComment.Matches text) : blockComment.Matches text := by
  obtain ⟨u, v, rfl, hu, hv⟩ := Regex.matches_seq.1 h
  obtain ⟨w, x, rfl, -, hx⟩ := Regex.matches_seq.1 hv
  have hblock : blockComment.Matches
      (Text.ofString "/*" ++ (CodePoint.ofChar '*' :: w ++ x)) :=
    .seq (Regex.matches_lit.2 rfl) (.seq (matches_anything _) hx)
  rwa [Regex.matches_lit.1 hu]

/-! ## Fixed texts -/

theorem not_accepts_symbol (s : Symbol) : ∀ shape ∈ shapes, shape.1.accepts s.text = false := by
  have h : Symbol.all.all (fun s => shapes.all fun shape => !shape.1.accepts s.text) = true := by
    decide +kernel
  intro shape hshape
  simpa using List.all_eq_true.1 (List.all_eq_true.1 h s s.mem_all) shape hshape

theorem identifier_accepts_keyword (w : Keyword) : identifier.accepts w.word = true := by
  have h : Keyword.all.all (fun w => identifier.accepts w.word) = true := by decide +kernel
  exact List.all_eq_true.1 h w w.mem_all

/-! ## The order of the shapes -/

theorem nodup_shapes : shapes.Nodup := by
  decide +kernel

/-- A text has two shapes only if they are the same, or those of the two kinds of comments. -/
def Exclusive (text : Text) (a b : Regex × TokenKind) : Prop :=
  a.1.accepts text = true → b.1.accepts text = true →
    a = b ∨ a = docEntry ∧ b = blockEntry ∨ a = blockEntry ∧ b = docEntry

theorem exclusive {a b : Regex × TokenKind} (ha : a ∈ shapes) (hb : b ∈ shapes) :
    Exclusive text a b := by
  have hrefl : ∀ a ∈ shapes, Exclusive text a a := fun a _ _ _ => Or.inl rfl
  have hbefore : shapes.Pairwise (Exclusive text) :=
    pairwise_shapes.imp fun hab hat hbt => Or.inr (Or.inl (hab text hat hbt))
  have hafter : shapes.Pairwise (flip (Exclusive text)) :=
    pairwise_shapes.imp fun hab hbt hat => Or.inr (Or.inr (hab text hat hbt).symm)
  exact List.Pairwise.forall_of_forall_of_flip hrefl hbefore hafter ha hb

/-- What comes after something that is looked for is not found first. -/
theorem find?_ne_of_sublist {α : Type} {p : α → Bool} {l : List α} {a b : α} (hnodup : l.Nodup)
    (hab : [a, b].Sublist l) (ha : p a = true) : l.find? p ≠ some b := by
  intro hfind
  obtain ⟨-, before, after, rfl, hbefore⟩ := List.find?_eq_some_iff_append.1 hfind
  have hafter : b ∈ after := by
    obtain ⟨l, l', hl, hsub, hsub'⟩ := List.sublist_append_iff.1 hab
    cases l with
    | nil =>
      rw [← List.nil_append l', ← hl] at hsub'
      rcases List.sublist_cons_iff.1 hsub' with hsub' | ⟨_, heq, hsub'⟩
      · exact hsub'.subset (by simp)
      · obtain ⟨-, rfl⟩ := List.cons.inj heq
        exact hsub'.subset (by simp)
    | cons d l =>
      obtain ⟨rfl, -⟩ := List.cons.inj hl
      have hpa := hbefore a (hsub.subset (List.mem_cons_self ..))
      simp [ha] at hpa
  exact (List.nodup_cons.1 (List.nodup_append.1 hnodup).2.1).1 hafter

/-- Trying the shapes in another order gives the same kind, as long as documentation comments are
tried before comments. -/
theorem first?_of_perm {shapes' : List (Regex × TokenKind)} (hperm : shapes'.Perm shapes)
    (horder : [docEntry, blockEntry].Sublist shapes') (text : Text) :
    first? shapes' text = first? shapes text := by
  suffices hfind : (shapes'.find? fun shape => shape.1.accepts text) =
      shapes.find? fun shape => shape.1.accepts text by rw [first?, hfind, first?]
  cases h : shapes.find? fun shape => shape.1.accepts text with
  | none =>
    rw [List.find?_eq_none] at h ⊢
    exact fun shape hshape => h shape (hperm.mem_iff.1 hshape)
  | some a =>
    have ha := List.mem_of_find?_eq_some h
    have hat := List.find?_some h
    cases h' : shapes'.find? fun shape => shape.1.accepts text with
    | none => exact absurd hat (List.find?_eq_none.1 h' a (hperm.mem_iff.2 ha))
    | some b =>
      have hb := hperm.mem_iff.1 (List.mem_of_find?_eq_some h')
      have hbt := List.find?_some h'
      rcases exclusive ha hb hat hbt with rfl | ⟨rfl, rfl⟩ | ⟨rfl, rfl⟩
      · rfl
      · exact absurd h' (find?_ne_of_sublist (hperm.nodup_iff.2 nodup_shapes) horder hat)
      · exact absurd h (find?_ne_of_sublist nodup_shapes (by decide +kernel) hbt)

end Lexeme

namespace TokenKind

/-- The kind of the token that a text is if the given shapes are tried in order. -/
def ofTextBy? (shapes : List (Regex × TokenKind)) (text : Text) : Option TokenKind :=
  match fixedTexts.lookup text with
  | some k => some k
  | none => Lexeme.first? shapes text

theorem ofTextBy?_shapes (text : Text) : ofTextBy? Lexeme.shapes text = ofText? text := by
  rfl

end TokenKind

namespace Lexeme

/-- At most one of the shapes is that of a text, except that each documentation comment has the
shape of a comment too. The text of a symbol has none of the shapes, and a keyword has that of an
identifier only. So a text has the same kind in whatever order the shapes are tried, as long
as documentation comments are tried before comments. -/
theorem shapes_disjoint :
    (shapes.Pairwise fun a b => ∀ text, a.1.accepts text = true → b.1.accepts text = true →
      a = docEntry ∧ b = blockEntry) ∧
    (∀ text, docEntry.1.accepts text = true → blockEntry.1.accepts text = true) ∧
    (∀ s : Symbol, ∀ shape ∈ shapes, shape.1.accepts s.text = false) ∧
    (∀ w : Keyword, ∀ shape ∈ shapes,
      shape.1.accepts w.word = true ↔ shape = (identifier, .identifier)) ∧
    ∀ shapes' : List (Regex × TokenKind), shapes'.Perm shapes →
      [docEntry, blockEntry].Sublist shapes' →
        ∀ text, TokenKind.ofTextBy? shapes' text = TokenKind.ofText? text := by
  refine ⟨pairwise_shapes, fun text h => ?_, not_accepts_symbol, fun w shape hshape => ?_,
    fun shapes' hperm horder text => ?_⟩
  · exact Regex.accepts_iff.2 (blockComment_of_docComment (Regex.accepts_iff.1 h))
  · constructor
    · intro h
      have hname : (identifier, TokenKind.identifier) ∈ shapes := by simp [shapes]
      rcases exclusive hshape hname h (identifier_accepts_keyword w) with h | ⟨-, h⟩ | ⟨-, h⟩
      · exact h
      · cases congrArg Prod.snd h
      · cases congrArg Prod.snd h
    · rintro rfl
      exact identifier_accepts_keyword w
  · rw [← TokenKind.ofTextBy?_shapes, TokenKind.ofTextBy?, TokenKind.ofTextBy?,
      first?_of_perm hperm horder]

/-- The shapes from the last to the first, except that documentation comments come first. -/
def lastFirst : List (Regex × TokenKind) :=
  docEntry :: (shapes.erase docEntry).reverse

/-- A documentation comment that is tried as one first, and a number that could be taken for a
hexadecimal one. -/
theorem shapes_disjoint_lastFirst :
    lastFirst.Perm shapes ∧ [docEntry, blockEntry].Sublist lastFirst ∧
    docEntry.1.accepts (Text.ofString "/**/*/") = true ∧
    blockEntry.1.accepts (Text.ofString "/**/*/") = true ∧
    TokenKind.ofTextBy? lastFirst (Text.ofString "/**/*/") =
      TokenKind.ofText? (Text.ofString "/**/*/") ∧
    TokenKind.ofTextBy? lastFirst (Text.ofString "0e1f") =
      TokenKind.ofText? (Text.ofString "0e1f") := by
  have hperm : lastFirst.Perm shapes := by decide +kernel
  have horder : [docEntry, blockEntry].Sublist lastFirst := by decide +kernel
  have hdoc : docEntry.1.accepts (Text.ofString "/**/*/") = true := by decide +kernel
  obtain ⟨-, hblock, -, -, hsame⟩ := shapes_disjoint
  exact ⟨hperm, horder, hdoc, hblock _ hdoc, hsame _ hperm horder _, hsame _ hperm horder _⟩

end Lexeme

end JavaText
