import JavaText.ParseTree.Java
import JavaText.Proofs.ParseTree.Window

/-!
# Imports that reproduce the source

An import that wants hidden tokens takes in what `TokenStream.gather` says, whatever the shape of
the parse tree is and whichever rules leave their children to the node above
(`Importer.gathers_piece`). If the terminals are the main tokens of a part of the stream, the tokens
of the imported tree are the window of the part in the order of the stream, each once, and its text
is the text of the source there (`Importer.build_window`).

An end mark that the parser sees is left out. One on a hidden channel is a hidden token like any
other (`Importer.build_window_hidden_end`).
-/

namespace JavaText

namespace Importer

open Import

variable {imp : Importer}

/-- The tokens of trees and what is placed are those that terminals at given places take in. -/
def Gathers (imp : Importer) (p : Progress) (is : List Nat) (us : List Tree) (p' : Progress) :
    Prop :=
  Tree.tokensOf us = imp.leaves (imp.stream.gather p.placed is).1 ∧
    p'.placed = (imp.stream.gather p.placed is).2

theorem gathers_terminal {t : SourceToken} {i : Nat} {q : Piece} {p p' : Progress}
    (hwants : imp.wantsHidden) (ht : imp.stream.tokens[i]? = some t)
    (h : Gives (imp.terminal t (some i)) p q p') : imp.Gathers p [i] q.trees p' := by
  rcases terminal_gives.1 h with ⟨hend, rfl, rfl⟩ | ⟨hend, l, -, ⟨hplain, -⟩ | ⟨-, h⟩⟩
  · have hnone : imp.stream.leafAt? i = none := by simp [TokenStream.leafAt?, ht, hend]
    simp [Gathers, TokenStream.gather, TokenStream.around, hnone, Piece.trees, Tree.tokensOf,
      leaves]
  · exact absurd hwants hplain
  · obtain ⟨i, before, after, p₁, heq, -, hbefore, hafter, rfl⟩ := h
    cases heq
    have hsome := TokenStream.leafAt?_eq_some.2 ⟨ht, hend⟩
    obtain ⟨rfl, hplaced⟩ := hidden_gives (imp.stream.nodup_hiddenBefore i) hbefore
    obtain ⟨rfl, hplaced'⟩ := hidden_gives (imp.stream.nodup_hiddenAfter i) hafter
    rw [Progress.placed_note] at hplaced ⊢
    rw [hplaced] at hplaced' ⊢
    constructor
    · rw [Piece.trees, Tree.tokensOf_append, Tree.tokensOf, Tree.tokensOf_map_token,
        Tree.tokensOf_map_token]
      simp [TokenStream.gather, TokenStream.around, hsome, Tree.tokens, leaves]
    · simp [TokenStream.gather, TokenStream.around, hsome, hplaced']

mutual

/-- Whatever the shape of a parse tree, it takes in what its terminals take in. -/
theorem gathers_piece (hwants : imp.wantsHidden) : ∀ {t : ParseTree} {q : Piece} {p p' : Progress},
    Gives (imp.piece t) p q p' → imp.Gathers p t.places q.trees p'
  | .terminal i, q, p, p', h => by
    rcases piece_terminal_gives.1 h with ⟨hnone, rfl, rfl⟩ | ⟨t, ht, h⟩
    · have hleaf : imp.stream.leafAt? i = none := by simp [TokenStream.leafAt?, hnone]
      simp [Gathers, ParseTree.places, TokenStream.gather, TokenStream.around, hleaf, Piece.trees,
        Tree.tokensOf, leaves]
    · exact gathers_terminal hwants ht h
  | .missing t, q, p, p', h => by
    rw [piece_missing] at h
    -- a token without a place fails unless it is the end mark
    rcases terminal_gives.1 h with ⟨-, rfl, rfl⟩ | ⟨-, l, -, ⟨hplain, -⟩ | ⟨-, i, _, _, _, hi, -⟩⟩
    · exact ⟨rfl, rfl⟩
    · exact absurd hwants hplain
    · cases hi
  | .foreign nodeType, q, p, p', h => absurd h not_piece_foreign_gives
  | .rule number nodeType ts, q, p, p', h => by
    obtain ⟨name, -, children, hchildren, rfl⟩ := piece_rule_gives.1 h
    obtain ⟨htokens, hplaced⟩ := gathers_pieces hwants hchildren
    rw [Gathers, trees_rulePiece_tokens]
    exact ⟨htokens, hplaced⟩

theorem gathers_pieces (hwants : imp.wantsHidden) : ∀ {ts : List ParseTree} {us : List Tree}
    {p p' : Progress}, Gives (imp.pieces ts) p us p' →
      imp.Gathers p (ParseTree.placesOf ts) us p'
  | [], us, p, p', h => by
    obtain ⟨rfl, rfl⟩ := pieces_nil_gives.1 h
    exact ⟨rfl, rfl⟩
  | t :: ts, us, p, p', h => by
    obtain ⟨q, p₁, vs, hq, hvs, rfl⟩ := pieces_cons_gives.1 h
    obtain ⟨htokens, hplaced⟩ := gathers_piece hwants hq
    obtain ⟨htokens', hplaced'⟩ := gathers_pieces hwants hvs
    rw [hplaced] at htokens' hplaced'
    rw [Gathers, ParseTree.placesOf, TokenStream.gather_append, Tree.tokensOf_append, htokens,
      htokens']
    exact ⟨List.map_append.symm, hplaced'⟩

end

/-- The text of the source at some tokens of the stream. -/
def sourceText (xs : List (SourceToken × Nat)) : Text :=
  xs.flatMap fun x => x.1.text.getD []

/-- An import that wants hidden tokens of a parse tree whose terminals are the main tokens of a part
of the stream gives a tree with the tokens of the window of the part, in the order of the stream and
each once; its text is the text of the source there. -/
theorem build_window {t : ParseTree} {a b : Nat} {o : Option Tree} {p : Progress}
    (hwants : imp.wantsHidden) (hplaces : t.places = (imp.stream.mains a b).map Prod.snd)
    (hleaf : ∃ m ∈ imp.stream.mains a b, ¬m.1.isEnd) (hbuild : imp.build t = (.ok o, p)) :
    ∃ u, o = some u ∧ u.tokens = imp.leaves (imp.stream.window a b) ∧
      u.text = sourceText (imp.stream.window a b) := by
  obtain ⟨q, hq, rfl⟩ := build_eq_ok.1 hbuild
  obtain ⟨htokens, -⟩ := gathers_piece hwants hq
  rw [hplaces, show Progress.start.placed = [] from rfl, TokenStream.gather_mains hleaf] at htokens
  obtain ⟨m, hm, hend⟩ := hleaf
  have hmem := List.mem_map_of_mem (f := fun x => imp.leaf x.1)
    (TokenStream.mem_window_of_mem_mains hm hend)
  cases hroot : q.root? with
  | none =>
    cases q with
    | nothing =>
      rw [← leaves, ← htokens] at hmem
      cases hmem
    | one t => cases hroot
    | several ts => cases hroot
  | some u =>
    have hu := (Piece.tokens_of_root? hroot).trans htokens
    refine ⟨u, rfl, hu, ?_⟩
    rw [Tree.text, hu, leaves, List.flatMap_map]
    rfl

/-- A declaration between white space and a comment, followed by another name. -/
def declaration : Importer :=
  { grammar :=
      { ruleNames := ["fieldDeclaration", "identifier"]
        tokenNames := ["WS", "IDENTIFIER", "SEMI", "COMMENT"] }
    naming := .java
    stream :=
      { tokens := [⟨0, some (Text.ofString " "), 1⟩, ⟨1, some (Text.ofString "x"), 0⟩,
          ⟨0, some (Text.ofString " "), 1⟩, ⟨2, some (Text.ofString ";"), 0⟩,
          ⟨3, some (Text.ofString "/**/"), 2⟩, ⟨1, some (Text.ofString "y"), 0⟩] }
    wantsHidden := true }

/-- The part up to the semicolon is imported with the hidden tokens on both sides of it. -/
theorem build_window_declaration :
    declaration.wantsHidden = true ∧
      ∃ u p, declaration.build (.rule 0 "FieldDeclarationContext"
          [.rule 1 "IdentifierContext" [.terminal 1], .terminal 3]) = (.ok (some u), p) ∧
        u.tokens = declaration.leaves (declaration.stream.window 1 4) ∧
        u.text = Text.ofString " x ;/**/" := by
  have hbuild : ∃ o p, declaration.build (.rule 0 "FieldDeclarationContext"
      [.rule 1 "IdentifierContext" [.terminal 1], .terminal 3]) = (.ok o, p) :=
    ⟨some (.construct (some (.construct .field)) [
      .token ⟨some (.token (.trivia .whiteSpace)), some (Text.ofString " ")⟩,
      .token ⟨some (.token .identifier), some (Text.ofString "x")⟩,
      .token ⟨some (.token (.trivia .whiteSpace)), some (Text.ofString " ")⟩,
      .token ⟨some (.token (.symbol .semicolon)), some (Text.ofString ";")⟩,
      .token ⟨some (.token (.trivia .blockComment)), some (Text.ofString "/**/")⟩]),
      ⟨[4, 2, 0], []⟩, by decide +kernel⟩
  obtain ⟨o, p, hbuild⟩ := hbuild
  obtain ⟨u, rfl, htokens, htext⟩ := build_window (a := 1) (b := 4) rfl (by decide +kernel)
    (by decide +kernel) hbuild
  exact ⟨rfl, u, p, hbuild, htokens, htext.trans (by decide +kernel)⟩

/-- A stream that ends in an end mark on a hidden channel, read by an importer that wants hidden
tokens. -/
def hiddenEnd : Importer :=
  { grammar := { ruleNames := ["r"], tokenNames := ["<INVALID>", "A"] }
    naming := .java
    stream := { tokens := [⟨1, some (Text.ofString "a"), 0⟩, ⟨-1, some (Text.ofString "e"), 1⟩] }
    wantsHidden := true }

/-- The end mark on the hidden channel becomes a leaf. -/
theorem build_window_hidden_end :
    hiddenEnd.wantsHidden = true ∧
      (ParseTree.terminal 0).places = (hiddenEnd.stream.mains 0 1).map Prod.snd ∧
      (∃ m ∈ hiddenEnd.stream.mains 0 1, ¬m.1.isEnd) ∧
      ∃ u p, hiddenEnd.build (.terminal 0) = (.ok (some u), p) ∧
        u.tokens ≠ hiddenEnd.leaves ((hiddenEnd.stream.window 0 1).filter fun x => !x.1.isEnd) :=
  ⟨rfl, by decide +kernel, by decide +kernel,
    .construct (some (.construct .javaFile)) [
      .token ⟨some (.token .identifier), some (Text.ofString "a")⟩,
      .token ⟨some (.token .identifier), some (Text.ofString "e")⟩],
    ⟨[1], []⟩, by decide +kernel, by decide +kernel⟩

end Importer

end JavaText
