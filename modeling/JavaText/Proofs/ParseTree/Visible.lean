import JavaText.ParseTree.Java
import JavaText.Proofs.Canonical.Formatting
import JavaText.Proofs.ParseTree.Window

/-!
# Hidden tokens and the canonical text

With hidden tokens an import gives a tree of another shape: each terminal comes with the hidden
tokens beside it, and a terminal on its own is put under a file. If no hidden token shows in the
canonical text, the two imports still show the same leaves below the same constructs, piece by piece
(`Importer.alike_piece`). A token on its own is written alike with and without a file above it. So
the canonical text does not depend on whether hidden tokens are wanted
(`Importer.build_canonical_eq`).
-/

namespace JavaText

namespace Tree

/-! ## Trees that show the same leaves -/

/-- Trees show the same leaves, whatever they stand below. -/
def ShowAlike (ts us : List Tree) : Prop :=
  ∀ above, (leavesUnderAll above ts).filter Leaf.isVisible =
    (leavesUnderAll above us).filter Leaf.isVisible

theorem leavesUnderAll_append (above : List (Option Kind)) (us : List Tree) : ∀ ts : List Tree,
    leavesUnderAll above (ts ++ us) = leavesUnderAll above ts ++ leavesUnderAll above us := by
  intro ts
  induction ts with
  | nil => rfl
  | cons t ts ih =>
    rw [List.cons_append, leavesUnderAll, leavesUnderAll, ih, List.append_assoc]

theorem filter_leavesUnderAll_of_isSilent (above : List (Option Kind)) : ∀ {ts : List Tree},
    (∀ t ∈ ts, t.isSilent) → (leavesUnderAll above ts).filter Leaf.isVisible = []
  | [], _ => rfl
  | t :: ts, h => by
    obtain ⟨ht, hts⟩ := List.forall_mem_cons.1 h
    rw [leavesUnderAll, List.filter_append, filter_leavesUnder_of_isSilent ht,
      filter_leavesUnderAll_of_isSilent above hts, List.append_nil]

namespace ShowAlike

variable {ts us ts' us' : List Tree}

theorem append (h : ShowAlike ts us) (h' : ShowAlike ts' us') :
    ShowAlike (ts ++ ts') (us ++ us') := by
  intro above
  rw [leavesUnderAll_append, leavesUnderAll_append, List.filter_append, List.filter_append, h, h']

theorem construct (h : ShowAlike ts us) (k : Option Kind) :
    ShowAlike [.construct k ts] [.construct k us] := by
  intro above
  simp only [leavesUnderAll, leavesUnder, List.append_nil]
  exact h (k :: above)

/-- Silent trees on both sides do not show. -/
theorem surround (t : Tree) (hbefore : ∀ u ∈ ts, u.isSilent) (hafter : ∀ u ∈ us, u.isSilent) :
    ShowAlike [t] (ts ++ t :: us) := by
  intro above
  rw [leavesUnderAll_append, List.filter_append, filter_leavesUnderAll_of_isSilent above hbefore]
  simp [leavesUnderAll, filter_leavesUnderAll_of_isSilent above hafter]

end ShowAlike

theorem canonical_eq_foldl (t : Tree) :
    t.canonical = (((t.leavesUnder []).filter Leaf.isVisible).foldl Draft.writeLeaf .empty).text :=
  Focus.canonical_eq_foldl (.whole t)

/-- Trees under one kind that show the same leaves have the same canonical text. -/
theorem ShowAlike.canonical_eq {ts us : List Tree} (h : ShowAlike ts us) (k : Option Kind) :
    (Tree.construct k ts).canonical = (Tree.construct k us).canonical := by
  rw [canonical_eq_foldl, canonical_eq_foldl, leavesUnder, leavesUnder, h]

/-- A file above a token is none of the constructs that the spacing of the token depends on. -/
theorem canonical_file_token (t : Token) :
    (Tree.construct (some (.construct .javaFile)) [.token t]).canonical =
      (Tree.token t).canonical :=
  rfl

end Tree

/-! ## Pieces that show the same leaves -/

namespace Piece

open JavaText.Tree

/-- What a node becomes without and with hidden tokens. -/
inductive Alike : Piece → Piece → Prop
  | nothing : Alike nothing nothing
  | token {t : Token} {us : List Tree} (h : ShowAlike [.token t] us) :
      Alike (one (.token t)) (several us)
  | construct {k : Option Kind} {ts us : List Tree} (h : ShowAlike ts us) :
      Alike (one (.construct k ts)) (one (.construct k us))
  | several {ts us : List Tree} (h : ShowAlike ts us) : Alike (several ts) (several us)

namespace Alike

variable {q q' : Piece}

theorem trees (h : Alike q q') : ShowAlike q.trees q'.trees := by
  cases h with
  | nothing => exact fun _ => rfl
  | token h => exact h
  | construct h => exact h.construct _
  | several h => exact h

/-- Pieces that show the same leaves make trees with the same canonical text. -/
theorem canonical_eq (h : Alike q q') {u : Tree} (hu : q.root? = some u) :
    ∃ v, q'.root? = some v ∧ u.canonical = v.canonical := by
  cases h with
  | nothing => cases hu
  | token h =>
    cases hu
    exact ⟨_, rfl, (canonical_file_token _).symm.trans (h.canonical_eq _)⟩
  | construct h =>
    cases hu
    exact ⟨_, rfl, h.canonical_eq _⟩
  | several h =>
    cases hu
    exact ⟨_, rfl, h.canonical_eq _⟩

end Alike

end Piece

namespace Importer

open Import JavaText.Tree

variable {imp : Importer}

/-- Whether every hidden token of the stream has a label, one of trivia unless its text is empty. -/
def hidesTrivia (imp : Importer) : Bool :=
  imp.stream.numbered.all fun x =>
    !x.1.isHidden || (imp.label? x.1).any fun l =>
      Kind.isTrivia l.kind || (x.1.text.getD []).isEmpty

/-- A hidden token has a label, and its leaf does not show. -/
theorem isSilent_of_hidesTrivia (h : imp.hidesTrivia) {x : SourceToken × Nat}
    (hx : x ∈ imp.stream.numbered) (hhidden : x.1.isHidden) :
    (imp.label? x.1).isSome ∧ (Tree.token (imp.leaf x.1)).isSilent = true := by
  have hlabel := List.all_eq_true.1 h x hx
  rw [hhidden, Bool.not_true, Bool.false_or, Option.any_eq_true] at hlabel
  obtain ⟨l, hl, hsilent⟩ := hlabel
  have hkind : (imp.leaf x.1).kind = l.kind := by rw [leaf, hl, Option.bind_some]
  have htext : (imp.leaf x.1).rawText = x.1.text.getD [] := rfl
  refine ⟨Option.isSome_iff_exists.2 ⟨l, hl⟩, ?_⟩
  simp only [Tree.isSilent, tokens, List.all_cons, List.all_nil, Bool.and_true, Token.isVisible,
    hkind, htext, ← Bool.not_or, Bool.not_not]
  exact hsilent

/-- Hidden tokens beside a place can be imported, and they do not show. -/
theorem exists_silent_hidden (h : imp.hidesTrivia) {run : List (SourceToken × Nat)} {i : Nat}
    (hrun : ∀ x ∈ run, imp.stream.Beside i x) (hnodup : (run.map Prod.snd).Nodup) (p : Progress) :
    ∃ us p', Gives ((imp.wanting true).hidden run) p us p' ∧ ∀ u ∈ us, u.isSilent := by
  have hlabels : ∀ x ∈ run, ((imp.wanting true).label? x.1).isSome := by
    intro x hx
    exact (isSilent_of_hidesTrivia h (hrun x hx).mem_numbered (hrun x hx).isHidden).1
  obtain ⟨us, p', hus⟩ := exists_hidden_gives p hlabels
  refine ⟨us, p', hus, ?_⟩
  obtain ⟨rfl, -⟩ := hidden_gives hnodup hus
  intro u hu
  obtain ⟨y, hy, rfl⟩ := List.mem_map.1 hu
  obtain ⟨x, hx, rfl⟩ := List.mem_map.1 hy
  obtain ⟨hx, -⟩ := TokenStream.mem_unplaced.1 hx
  exact (isSilent_of_hidesTrivia h (hrun x hx).mem_numbered (hrun x hx).isHidden).2

theorem alike_terminal (hsilent : imp.hidesTrivia) {t : SourceToken} {i : Nat}
    (hi : i ≤ imp.stream.last) {q : Piece} {p p' : Progress}
    (h : Gives ((imp.wanting false).terminal t (some i)) p q p') (r : Progress) :
    ∃ q' r', Gives ((imp.wanting true).terminal t (some i)) r q' r' ∧ q.Alike q' := by
  rcases terminal_gives.1 h with ⟨hend, rfl, -⟩ | ⟨hend, l, hl, ⟨-, rfl, -⟩ | ⟨hwants, -⟩⟩
  · exact ⟨.nothing, r, terminal_gives.2 (Or.inl ⟨hend, rfl, rfl⟩), .nothing⟩
  · obtain ⟨before, r₁, hbefore, hsilentBefore⟩ := exists_silent_hidden hsilent
      (fun x hx => Or.inl hx) (imp.stream.nodup_hiddenBefore i) (r.note l)
    obtain ⟨after, r₂, hafter, hsilentAfter⟩ := exists_silent_hidden hsilent
      (fun x hx => Or.inr hx) (imp.stream.nodup_hiddenAfter i) r₁
    refine ⟨.several (before ++ .token (imp.leaf t) :: after), r₂, ?_, ?_⟩
    · exact terminal_gives.2 (Or.inr ⟨hend, l, hl, Or.inr ⟨rfl, i, before, after, r₁, rfl, hi,
        hbefore, hafter, rfl⟩⟩)
    · exact .token (.surround _ hsilentBefore hsilentAfter)
  · cases hwants

mutual

/-- A parse tree that is imported without hidden tokens is imported with them, and the pieces show
the same leaves. -/
theorem alike_piece (hsilent : imp.hidesTrivia) : ∀ {t : ParseTree} {q : Piece} {p p' : Progress},
    (∀ i ∈ t.places, i ≤ imp.stream.last) → t.strays = [] →
      Gives ((imp.wanting false).piece t) p q p' → ∀ r, ∃ q' r',
        Gives ((imp.wanting true).piece t) r q' r' ∧ q.Alike q'
  | .terminal i, q, p, p', hplaces, _, h, r => by
    rcases piece_terminal_gives.1 h with ⟨hnone, rfl, -⟩ | ⟨t, ht, h⟩
    · exact ⟨.nothing, r, piece_terminal_gives.2 (Or.inl ⟨hnone, rfl, rfl⟩), .nothing⟩
    · obtain ⟨q', r', hq', halike⟩ := alike_terminal hsilent (hplaces i List.mem_cons_self) h r
      exact ⟨q', r', piece_terminal_gives.2 (Or.inr ⟨t, ht, hq'⟩), halike⟩
  | .missing t, _, _, _, _, hstrays, _, _ => by cases hstrays
  | .foreign nodeType, q, p, p', _, _, h, _ => absurd h not_piece_foreign_gives
  | .rule number nodeType ts, q, p, p', hplaces, hstrays, h, r => by
    obtain ⟨name, hname, children, hchildren, rfl⟩ := piece_rule_gives.1 h
    obtain ⟨us, r', hus, halike⟩ := alike_pieces hsilent hplaces hstrays hchildren
      (r.note (imp.naming.ruleLabel name nodeType))
    refine ⟨_, r', piece_rule_gives.2 ⟨name, hname, us, hus, rfl⟩, ?_⟩
    change (rulePiece (imp.naming.ruleLabel name nodeType) children).Alike
      (rulePiece (imp.naming.ruleLabel name nodeType) us)
    unfold rulePiece
    cases (imp.naming.ruleLabel name nodeType).kind with
    | none => exact .several halike
    | some k => exact .construct halike

theorem alike_pieces (hsilent : imp.hidesTrivia) : ∀ {ts : List ParseTree} {us : List Tree}
    {p p' : Progress}, (∀ i ∈ ParseTree.placesOf ts, i ≤ imp.stream.last) →
      ParseTree.straysOf ts = [] → Gives ((imp.wanting false).pieces ts) p us p' → ∀ r, ∃ us' r',
        Gives ((imp.wanting true).pieces ts) r us' r' ∧ ShowAlike us us'
  | [], us, p, p', _, _, h, r => by
    obtain ⟨rfl, -⟩ := pieces_nil_gives.1 h
    exact ⟨[], r, pieces_nil_gives.2 ⟨rfl, rfl⟩, fun _ => rfl⟩
  | t :: ts, us, p, p', hplaces, hstrays, h, r => by
    obtain ⟨q, p₁, vs, hq, hvs, rfl⟩ := pieces_cons_gives.1 h
    obtain ⟨hstray, hstrays⟩ := List.append_eq_nil_iff.1 hstrays
    obtain ⟨hplace, hplaces⟩ := List.forall_mem_append.1 hplaces
    obtain ⟨q', r₁, hq', halike⟩ := alike_piece hsilent hplace hstray hq r
    obtain ⟨vs', r₂, hvs', halike'⟩ := alike_pieces hsilent hplaces hstrays hvs r₁
    exact ⟨_, r₂, pieces_cons_gives.2 ⟨q', r₁, vs', hq', hvs', rfl⟩, halike.trees.append halike'⟩

end

/-- Only an end mark on its own becomes nothing. -/
theorem exists_root? {t : ParseTree} {q : Piece} {p p' : Progress} (hstrays : t.strays = [])
    (hlone : ∀ i, t = .terminal i → (imp.stream.leafAt? i).isSome)
    (h : Gives (imp.piece t) p q p') : ∃ u, q.root? = some u := by
  cases t with
  | terminal i =>
    obtain ⟨t, ht⟩ := Option.isSome_iff_exists.1 (hlone i rfl)
    obtain ⟨htoken, hend⟩ := TokenStream.leafAt?_eq_some.1 ht
    rcases piece_terminal_gives.1 h with ⟨hnone, -⟩ | ⟨t', ht', h⟩
    · rw [hnone] at htoken
      cases htoken
    · obtain rfl := Option.some.inj (htoken.symm.trans ht')
      rcases terminal_gives.1 h with ⟨hend', -⟩ | ⟨-, l, -, ⟨-, rfl, -⟩ | ⟨-, h⟩⟩
      · exact absurd hend' hend
      · exact ⟨_, rfl⟩
      · obtain ⟨_, _, _, _, -, -, -, -, rfl⟩ := h
        exact ⟨_, rfl⟩
  | missing t => cases hstrays
  | foreign nodeType => exact absurd h not_piece_foreign_gives
  | rule number nodeType ts =>
    obtain ⟨name, -, children, -, rfl⟩ := piece_rule_gives.1 h
    unfold rulePiece
    split <;> exact ⟨_, rfl⟩

/-- Where hidden tokens are trivia, an import gives the same canonical text with them as without
them; it succeeds with them if it does without them. -/
theorem build_canonical_eq {t : ParseTree} {o : Option Tree} {p : Progress}
    (hsilent : imp.hidesTrivia) (hplaces : ∀ i ∈ t.places, i ≤ imp.stream.last)
    (hstrays : t.strays = []) (hlone : ∀ i, t = .terminal i → (imp.stream.leafAt? i).isSome)
    (hbuild : (imp.wanting false).build t = (.ok o, p)) :
    ∃ u v p', o = some u ∧ (imp.wanting true).build t = (.ok (some v), p') ∧
      u.canonical = v.canonical := by
  obtain ⟨q, hq, rfl⟩ := build_eq_ok.1 hbuild
  obtain ⟨q', p', hq', halike⟩ := alike_piece hsilent hplaces hstrays hq .start
  obtain ⟨u, hu⟩ := (imp.wanting false).exists_root? hstrays hlone hq
  obtain ⟨v, hv, heq⟩ := halike.canonical_eq hu
  exact ⟨u, v, p', hu, build_eq_ok.2 ⟨q', hq', hv.symm⟩, heq⟩

/-- A call of a method with hidden tokens between its parts: comments, and one without a text. -/
def commented : Importer :=
  { grammar :=
      { ruleNames := ["methodCall", "identifier"]
        tokenNames := ["COMMENT", "IDENTIFIER", "LPAREN", "RPAREN", "LINE_COMMENT"] }
    naming := .java
    stream :=
      { tokens := [⟨0, some (Text.ofString "/**/"), 1⟩, ⟨1, some (Text.ofString "f"), 0⟩,
          ⟨4, some (Text.ofString "// ("), 2⟩, ⟨2, some (Text.ofString "("), 0⟩,
          ⟨9, some [], 1⟩, ⟨3, some (Text.ofString ")"), 0⟩] }
    wantsHidden := false }

/-- The call is written alike with and without its hidden tokens. -/
theorem build_canonical_eq_commented :
    commented.hidesTrivia = true ∧ ∃ u v p p',
      (commented.wanting false).build (.rule 0 "MethodCallContext"
        [.rule 1 "IdentifierContext" [.terminal 1], .terminal 3, .terminal 5]) = (.ok (some u), p) ∧
      (commented.wanting true).build (.rule 0 "MethodCallContext"
        [.rule 1 "IdentifierContext" [.terminal 1], .terminal 3, .terminal 5]) =
          (.ok (some v), p') ∧
      u.text = Text.ofString "f()" ∧ u.canonical = v.canonical := by
  have hsilent : commented.hidesTrivia = true := by decide +kernel
  have hbuild : (commented.wanting false).build (.rule 0 "MethodCallContext"
      [.rule 1 "IdentifierContext" [.terminal 1], .terminal 3, .terminal 5]) =
        (.ok (some (.construct (some (.construct .methodCallExpression)) [
          .token ⟨some (.token .identifier), some (Text.ofString "f")⟩,
          .token ⟨some (.token (.symbol .leftParen)), some (Text.ofString "(")⟩,
          .token ⟨some (.token (.symbol .rightParen)), some (Text.ofString ")")⟩])), .start) := by
    decide +kernel
  obtain ⟨u, v, p', hu, hv, heq⟩ := build_canonical_eq hsilent (by decide +kernel) rfl
    (fun i h => by cases h) hbuild
  cases hu
  exact ⟨hsilent, _, v, _, p', hbuild, hv, by decide +kernel, heq⟩

end Importer

end JavaText
