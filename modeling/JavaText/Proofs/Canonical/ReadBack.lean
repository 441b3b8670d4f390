import JavaText.Lexeme
import JavaText.Proofs.Canonical.Layout

/-!
# Tokens read back from the canonical text

A tree is simple if every token that shows is a word, made of letters, digits, underscores and
dollar signs, or a symbol of one character, and has the kind that its text has. The canonical text
of a simple tree holds its tokens whole: `readBack` cuts a text into its longest words and its
single other characters, without the spaces and line breaks, and finds the tokens again
(`Focus.readBack_canonical`). What carries the proof is that a word asks for a space after it and
accepts one before it, so two words are never written together.
-/

namespace JavaText

/-- A character of a word. -/
def CodePoint.isNamePart (c : CodePoint) : Bool :=
  c.isWord || c == CodePoint.ofChar '$'

/-- A space or a line break. -/
def CodePoint.isGap (c : CodePoint) : Bool :=
  c == CodePoint.ofChar ' ' || c == CodePoint.ofChar '\n'

/-! ## Simple trees -/

/-- The token has the kind that its text has, and the text is a word or the text of one character
that the kind always has. -/
def Token.IsSimple (t : Token) : Prop :=
  ∃ k : TokenKind, TokenKind.ofText? t.rawText = some k ∧ t.kind = some (.token k) ∧
    ((∀ c ∈ t.rawText, c.isNamePart) ∨ (k.fixedText? = some t.rawText ∧ t.rawText.length = 1))

/-- All tokens that show are simple. -/
def Tree.IsSimple (t : Tree) : Prop :=
  ∀ u ∈ t.tokens, u.isVisible → u.IsSimple

/-- The texts of the tokens that show. -/
def Tree.visibleTexts (t : Tree) : List Text :=
  (t.tokens.filter Token.isVisible).map Token.rawText

/-! ## Texts of symbols -/

namespace CodePoint

/-- The runs of word characters in ASCII. -/
def asciiWordRanges : List (Nat × Nat) :=
  [(0x30, 0x39), (0x41, 0x5a), (0x5f, 0x5f), (0x61, 0x7a)]

/-- Among the characters of ASCII only the first few runs of word characters matter. -/
theorem isWord_of_lt {c : CodePoint} (h : c.val < 0x80) : c.isWord = c.within asciiWordRanges := by
  have hbound : ((wordRanges.drop 4).all fun r => 0x80 ≤ r.1) = true := by decide +kernel
  have hrest : ((wordRanges.drop 4).any fun r => r.1 ≤ c.val && c.val ≤ r.2) = false := by
    rw [List.any_eq_false]
    intro r hr
    have hle : 0x80 ≤ r.1 := by simpa using List.all_eq_true.1 hbound r hr
    have hlt : ¬r.1 ≤ c.val := by omega
    simp [hlt]
  rw [isWord, within, ← List.take_append_drop 4 wordRanges, List.any_append, hrest,
    Bool.or_false]
  rfl

end CodePoint

namespace Symbol

/-- The characters of a symbol are ASCII signs, and no gaps. -/
theorem all_text (s : Symbol) :
    (s.text.all fun c => decide (c.val < 0x80) && !c.within CodePoint.asciiWordRanges
      && !(c == CodePoint.ofChar '$') && !c.isGap) = true := by
  cases s <;> decide

/-- The text of a symbol holds no character of a word and no gap. -/
theorem not_isNamePart_of_mem_text {s : Symbol} {c : CodePoint} (hc : c ∈ s.text) :
    c.isNamePart = false ∧ c.isGap = false := by
  have h := List.all_eq_true.1 s.all_text c hc
  simp only [Bool.and_eq_true, decide_eq_true_eq, Bool.not_eq_true'] at h
  obtain ⟨⟨⟨hlt, hword⟩, hdollar⟩, hgap⟩ := h
  exact ⟨by rw [CodePoint.isNamePart, CodePoint.isWord_of_lt hlt, hword, hdollar]; rfl, hgap⟩

theorem text_ne_nil (s : Symbol) : s.text ≠ [] := by
  cases s <;> decide

end Symbol

theorem Keyword.length_word_ne_one (k : Keyword) : k.word.length ≠ 1 := by
  cases k <;> decide

namespace TokenKind

/-- A text that is classified as a symbol is the text of the symbol. -/
theorem eq_text_of_ofText? {t : Text} {s : Symbol} (h : ofText? t = some (.symbol s)) :
    t = s.text := by
  unfold ofText? at h
  split at h
  · next k hk =>
    obtain rfl := Option.some.inj h
    obtain ⟨l₁, l₂, hl, -⟩ := List.lookup_eq_some_iff.1 hk
    have hmem : (t, TokenKind.symbol s) ∈ fixedTexts := by simp [hl]
    simp only [fixedTexts, List.mem_append, List.mem_map, Prod.mk.injEq] at hmem
    rcases hmem with ⟨s', -, ht, hs⟩ | ⟨k, -, -, hk⟩
    · obtain rfl := TokenKind.symbol.inj hs
      exact ht.symm
    · cases hk
  · obtain ⟨shape, hshape, hs⟩ := Option.map_eq_some_iff.1 h
    have hnone : ∀ shape ∈ Lexeme.shapes, ∀ s : Symbol, shape.2 ≠ .symbol s := by
      simp [Lexeme.shapes]
    exact absurd hs (hnone shape (List.mem_of_find?_eq_some hshape) s)

end TokenKind

/-! ## Words and signs -/

namespace Leaf

/-- A leaf with a word. -/
structure IsWord (l : Leaf) : Prop where
  ne_nil : l.text ≠ []
  isNamePart : ∀ c ∈ l.text, c.isNamePart
  not_isOneOf : ∀ symbols : List Symbol, ¬l.IsOneOf symbols

/-- A leaf with a single character that is neither part of a word nor a gap. -/
def IsSign (l : Leaf) : Prop :=
  ∃ c : CodePoint, l.text = [c] ∧ c.isNamePart = false ∧ c.isGap = false

/-- A visible leaf with a simple token is a word or a sign. -/
theorem isWord_or_isSign {l : Leaf} (hv : l.isVisible) (h : l.token.IsSimple) :
    l.IsWord ∨ l.IsSign := by
  obtain ⟨k, hk, hkind, hword | ⟨hfixed, hlen⟩⟩ := h
  · refine Or.inl ⟨text_ne_nil hv, hword, ?_⟩
    rintro symbols ⟨s, -, hs⟩
    have hks : k = .symbol s := by simpa [kind, hkind] using hs
    subst hks
    have htext : l.text = s.text := TokenKind.eq_text_of_ofText? hk
    obtain ⟨c, hc⟩ := List.exists_mem_of_ne_nil _ s.text_ne_nil
    have hpart : c.isNamePart := hword c (by change c ∈ l.text; rwa [htext])
    rw [(Symbol.not_isNamePart_of_mem_text hc).1] at hpart
    cases hpart
  · right
    cases k with
    | symbol s =>
      obtain ⟨c, hc⟩ := List.length_eq_one_iff.1 hlen
      have hs : s.text = [c] := (Option.some.inj hfixed).trans hc
      have hmem : c ∈ s.text := by simp [hs]
      exact ⟨c, hc, Symbol.not_isNamePart_of_mem_text hmem⟩
    | keyword w =>
      exact absurd (by rw [Option.some.inj hfixed]; exact hlen) w.length_word_ne_one
    | trivia _ => simp [TokenKind.fixedText?] at hfixed
    | identifier => simp [TokenKind.fixedText?] at hfixed
    | literal _ => simp [TokenKind.fixedText?] at hfixed

namespace IsWord

variable {l : Leaf} (h : l.IsWord)

include h

/-- A word asks for a space after it. -/
theorem asksSpaceAfter : l.AsksSpaceAfter :=
  Or.inl ⟨h.not_isOneOf _, h.not_isOneOf _⟩

/-- A word accepts one before it. -/
theorem acceptsSpaceBefore : l.AcceptsSpaceBefore :=
  ⟨h.not_isOneOf _, h.not_isOneOf _⟩

/-- A word ends no line. -/
theorem not_endsLine : ¬l.EndsLine :=
  h.not_isOneOf _

end IsWord

end Leaf

/-! ## Reading back -/

/-- The longest words of a text and its other characters one by one, without the gaps. -/
def readBack : Text → List Text
  | [] => []
  | c :: t =>
    if c.isNamePart then
      match t, readBack t with
      | d :: _, w :: ws => if d.isNamePart then (c :: w) :: ws else [c] :: w :: ws
      | _, ws => [c] :: ws
    else if c.isGap then readBack t
    else [c] :: readBack t

theorem isNamePart_of_isGap {c : CodePoint} (h : c.isGap) : c.isNamePart = false := by
  simp only [CodePoint.isGap, Bool.or_eq_true, beq_iff_eq] at h
  rcases h with rfl | rfl <;> decide +kernel

/-- Gaps at the start are passed over. -/
theorem readBack_gaps : ∀ {g : Text}, (∀ c ∈ g, c.isGap) → ∀ t : Text,
    readBack (g ++ t) = readBack t
  | [], _, _ => rfl
  | c :: g, h, t => by
    have hc := h c (by simp)
    have ih := readBack_gaps (fun x hx => h x (List.mem_cons_of_mem c hx)) t
    rw [List.cons_append, readBack.eq_def]
    simp [isNamePart_of_isGap hc, hc, ih]

/-- A sign is read on its own. -/
theorem readBack_sign {c : CodePoint} (hc : c.isNamePart = false) (h : c.isGap = false) (t : Text) :
    readBack (c :: t) = [c] :: readBack t := by
  rw [readBack.eq_def]
  simp [hc, h]

/-- A text that does not go on with a character of a word. -/
def StartsApart (t : Text) : Prop :=
  ∀ c ∈ t.head?, c.isNamePart = false

/-- What starts with a gap starts apart. -/
theorem startsApart_append {g t : Text} (hg : ∀ c ∈ g, c.isGap) (ht : g = [] → StartsApart t) :
    StartsApart (g ++ t) := by
  cases g with
  | nil => exact ht rfl
  | cons c g => simpa [StartsApart] using isNamePart_of_isGap (hg c (by simp))

/-- A word that nothing more belongs to is read back whole. -/
theorem readBack_word : ∀ (w : Text) {t : Text}, w ≠ [] → (∀ c ∈ w, c.isNamePart) →
    StartsApart t → readBack (w ++ t) = w :: readBack t
  | [c], t, _, hw, ht => by
    have hc := hw c (by simp)
    rw [List.singleton_append, readBack.eq_def]
    cases t with
    | nil => simp [hc, readBack]
    | cons d t =>
      have hd : d.isNamePart = false := ht d rfl
      cases hrest : readBack (d :: t) <;> simp [hc, hd, hrest]
  | c :: d :: w, t, _, hw, ht => by
    have ih := readBack_word (d :: w) (by simp) (fun x hx => hw x (List.mem_cons_of_mem c hx)) ht
    have hc := hw c (by simp)
    have hd := hw d (by simp)
    rw [List.cons_append] at ih ⊢
    rw [List.cons_append, readBack.eq_def]
    simp [hc, hd, ih]

/-! ## The layout of words and signs -/

namespace Chunk

variable (earlier : List Chunk) (l : Leaf)

theorem isGap_before : ∀ c ∈ (following earlier l).before, c.isGap := by
  change ∀ c ∈ (if NeedsSpace earlier l then Draft.space else []), c.isGap
  split
  · exact List.all_eq_true.1 (by decide)
  · simp

theorem isGap_after : ∀ c ∈ (following earlier l).after, c.isGap := by
  change ∀ c ∈ (if l.EndsLine then Draft.lineBreak else []), c.isGap
  split
  · exact List.all_eq_true.1 (by decide)
  · simp

end Chunk

/-- After a word the next chunk starts apart: another word has a space before it. -/
theorem startsApart_layout {earlier : List Chunk} {c : Chunk} (hc : c ∈ earlier.getLast?)
    (hword : c.leaf.IsWord) : ∀ {ls : List Leaf}, (∀ l ∈ ls, l.IsWord ∨ l.IsSign) →
      StartsApart ((layout earlier ls).flatMap Chunk.text)
  | [], _ => by simp [layout, StartsApart]
  | l :: ls, h => by
    rw [layout, List.flatMap_cons, Chunk.text, List.append_assoc, List.append_assoc]
    refine startsApart_append (Chunk.isGap_before earlier l) fun hnil => ?_
    rcases h l (by simp) with hl | ⟨x, hx, hpart, -⟩
    · have hneeds : NeedsSpace earlier l :=
        Or.inl ⟨c, hc, hword.asksSpaceAfter, hl.acceptsSpaceBefore⟩
      have hspace : (Chunk.following earlier l).before = Draft.space := if_pos hneeds
      exact absurd (hspace.symm.trans hnil) (by decide)
    · simp [StartsApart, Chunk.following, hx, hpart]

/-- The layout of words and signs is read back as their texts. -/
theorem readBack_layout : ∀ (ls : List Leaf) (earlier : List Chunk),
    (∀ l ∈ ls, l.IsWord ∨ l.IsSign) →
      readBack ((layout earlier ls).flatMap Chunk.text) = ls.map Leaf.text
  | [], _, _ => rfl
  | l :: ls, earlier, h => by
    have hrest : ∀ m ∈ ls, m.IsWord ∨ m.IsSign := fun m hm => h m (List.mem_cons_of_mem l hm)
    have ih := readBack_layout ls (earlier ++ [Chunk.following earlier l]) hrest
    rw [layout, List.flatMap_cons, Chunk.text, List.append_assoc, List.append_assoc,
      readBack_gaps (Chunk.isGap_before earlier l), List.map_cons]
    rcases h l (by simp) with hl | ⟨x, hx, hpart, hgap⟩
    · have hafter : (Chunk.following earlier l).after = [] := if_neg hl.not_endsLine
      have hlast : Chunk.following earlier l ∈
          (earlier ++ [Chunk.following earlier l]).getLast? := by simp
      have hapart := startsApart_layout hlast hl hrest
      rw [hafter, List.nil_append, ← ih]
      exact readBack_word l.text hl.ne_nil hl.isNamePart hapart
    · change readBack (l.text ++ _) = _
      rw [hx, List.singleton_append, readBack_sign hpart hgap,
        readBack_gaps (Chunk.isGap_after earlier l), ih]

namespace Focus

/-- The canonical text of a simple tree is read back as the texts of its tokens. -/
theorem readBack_canonical {f : Focus} (h : f.tree.IsSimple) :
    readBack f.canonical = f.tree.visibleTexts := by
  have hleaves : ∀ l ∈ f.visibleLeaves, l.IsWord ∨ l.IsSign := by
    intro l hl
    have htoken : l.token ∈ f.tree.tokens.filter Token.isVisible := by
      rw [← map_token_visibleLeaves]
      exact List.mem_map_of_mem hl
    obtain ⟨hmem, hv⟩ := List.mem_filter.1 htoken
    exact Leaf.isWord_or_isSign hv (h l.token hmem hv)
  rw [canonical_eq_layout, layout, readBack_layout _ _ hleaves, Tree.visibleTexts,
    ← map_token_visibleLeaves, List.map_map]
  rfl

/-- Simple trees with the same canonical text, wherever they stand, have the same tokens: none is
glued to the next one or split. -/
theorem visibleTexts_eq_of_canonical_eq {f g : Focus} (hf : f.tree.IsSimple)
    (hg : g.tree.IsSimple) (h : f.canonical = g.canonical) :
    f.tree.visibleTexts = g.tree.visibleTexts := by
  rw [← readBack_canonical hf, ← readBack_canonical hg, h]

/-- The statement `return x;` as a statement and as three tokens in a row. -/
theorem visibleTexts_eq_of_canonical_eq_return :
    let returns : Tree := .token ⟨some (.token (.keyword .returnKw)), some (Text.ofString "return")⟩
    let name : Tree := .token ⟨some (.token .identifier), some (Text.ofString "x")⟩
    let semicolon : Tree := .token ⟨some (.token (.symbol .semicolon)), some (Text.ofString ";")⟩
    let f : Focus := .whole (.construct (some (.construct .returnStatement))
      [returns, .construct (some (.construct .referenceExpression)) [name], semicolon])
    let g : Focus := .whole (.construct none [returns, name, semicolon])
    f.tree.IsSimple ∧ g.tree.IsSimple ∧ f.canonical = g.canonical ∧
      f.tree.visibleTexts = g.tree.visibleTexts := by
  intro returns name semicolon f g
  have hreturn :
      Token.IsSimple ⟨some (.token (.keyword .returnKw)), some (Text.ofString "return")⟩ :=
    ⟨.keyword .returnKw, by decide +kernel, rfl, Or.inl (List.all_eq_true.1 (by decide +kernel))⟩
  have hname : Token.IsSimple ⟨some (.token .identifier), some (Text.ofString "x")⟩ :=
    ⟨.identifier, by decide +kernel, rfl, Or.inl (List.all_eq_true.1 (by decide +kernel))⟩
  have hsemicolon : Token.IsSimple ⟨some (.token (.symbol .semicolon)), some (Text.ofString ";")⟩ :=
    ⟨.symbol .semicolon, by decide +kernel, rfl, Or.inr ⟨rfl, rfl⟩⟩
  have hf : f.tree.IsSimple := by
    simp [f, whole, Tree.IsSimple, Tree.tokens, Tree.tokensOf, returns, name, semicolon, hreturn,
      hname, hsemicolon]
  have hg : g.tree.IsSimple := by
    simp [g, whole, Tree.IsSimple, Tree.tokens, Tree.tokensOf, returns, name, semicolon, hreturn,
      hname, hsemicolon]
  have h : f.canonical = g.canonical := by decide +kernel
  exact ⟨hf, hg, h, visibleTexts_eq_of_canonical_eq hf hg h⟩

end Focus

end JavaText
