import JavaText.ParseTree.Java
import JavaText.Proofs.ParseTree.Steps
import Mathlib.Data.Set.Finite.List

/-!
# Rules that leave no node

A rule without a kind leaves its children to the node above. The same comes out if all such rules
are first given a kind of their own, which nothing else has, and the nodes of that kind are then
contracted: each gives way to its children, and at the root to a file (`Tree.contractRoot`). Pieces
correspond on the way (`Importer.piece_marked`), since the nodes that a marked import makes give
back, contracted, what the rules without a kind leave (`Piece.trees_contract`).

Neither step touches the tokens. Without hidden tokens, the tokens of an import are those of the
terminals of the parse tree, whatever the naming says about rules (`Importer.tokens_piece`).
-/

namespace JavaText

namespace ParseTree

mutual

/-- The tokens of the terminals of a tree, from left to right. The end mark after all tokens of the
stream is not among them. -/
def symbols (stream : TokenStream) : ParseTree → List SourceToken
  | terminal place => stream.tokens[place]?.toList
  | missing t => [t]
  | rule _ _ ts => symbolsOf stream ts
  | foreign _ => []

/-- The tokens of the terminals of several trees, from left to right. -/
def symbolsOf (stream : TokenStream) : List ParseTree → List SourceToken
  | [] => []
  | t :: ts => symbols stream t ++ symbolsOf stream ts

end

end ParseTree

/-! ## Contracting trees -/

namespace Tree

mutual

/-- What stands in the place of a tree once the constructs of a kind give way to their children. -/
def contract (m : Kind) : Tree → List Tree
  | token t => [token t]
  | construct k ts => if k = some m then contractAll m ts else [construct k (contractAll m ts)]

/-- What stands in the place of several trees once the constructs of a kind give way to their
children. -/
def contractAll (m : Kind) : List Tree → List Tree
  | [] => []
  | t :: ts => contract m t ++ contractAll m ts

end

/-- A whole tree once the constructs of a kind give way to their children; one at the root gives way
to a file. -/
def contractRoot (m : Kind) : Tree → Tree
  | token t => token t
  | construct k ts =>
    construct (if k = some m then some (.construct .javaFile) else k) (contractAll m ts)

/-- Trees are contracted one after another. -/
theorem contractAll_append (m : Kind) (us : List Tree) : ∀ ts : List Tree,
    contractAll m (ts ++ us) = contractAll m ts ++ contractAll m us
  | [] => rfl
  | t :: ts => by
    rw [List.cons_append, contractAll, contractAll, contractAll_append m us ts, List.append_assoc]

end Tree

namespace Piece

/-- What a node becomes once the constructs of a kind give way to their children. -/
def contract (m : Kind) : Piece → Piece
  | nothing => nothing
  | one (.token t) => one (.token t)
  | one (.construct k ts) =>
    if k = some m then several (Tree.contractAll m ts)
    else one (.construct k (Tree.contractAll m ts))
  | several ts => several (Tree.contractAll m ts)

/-- A contracted piece leaves the contracted trees. -/
theorem trees_contract (m : Kind) (q : Piece) :
    (q.contract m).trees = Tree.contractAll m q.trees := by
  match q with
  | nothing => rfl
  | one (.token t) => simp [contract, trees, Tree.contractAll, Tree.contract]
  | one (.construct k ts) =>
    by_cases hk : k = some m <;> simp [contract, trees, Tree.contractAll, Tree.contract, hk]
  | several ts => rfl

/-- A contracted piece has the contracted root, since the root of a file is never taken out. -/
theorem root?_contract {m : Kind} (hfile : m ≠ .construct .javaFile) (q : Piece) :
    (q.contract m).root? = q.root?.map (Tree.contractRoot m) := by
  match q with
  | nothing => rfl
  | one (.token t) => rfl
  | one (.construct k ts) =>
    by_cases hk : k = some m <;> simp [contract, root?, Tree.contractRoot, hk]
  | several ts => simp [contract, root?, Tree.contractRoot, hfile.symm]

end Piece

/-! ## Marking rules -/

/-- A label with the kind for the word that there is none. -/
def Label.marked (m : Kind) : Label → Label
  | known k => known (some (k.getD m))
  | unknown name => unknown name

/-- Marking a label changes nothing about the names that led nowhere. -/
theorem Progress.note_marked (m : Kind) (l : Label) (p : Progress) :
    p.note (l.marked m) = p.note l := by
  cases l <;> rfl

namespace Naming

variable {n : Naming} {m : Kind}

/-- The same naming, where the rules without a kind are given one. -/
def marked (n : Naming) (m : Kind) : Naming :=
  { n with rules := n.rules.map fun w => (w.1, some (w.2.getD m)) }

theorem lookup_marked (name : Text) :
    (n.marked m).rules.lookup name = (n.rules.lookup name).map fun k => some (k.getD m) := by
  have h : ∀ rules : List (Text × Option Kind),
      (rules.map fun w => (w.1, some (w.2.getD m))).lookup name =
        (rules.lookup name).map fun k => some (k.getD m) := by
    intro rules
    induction rules with
    | nil => rfl
    | cons w rules ih =>
      rw [List.map_cons, List.lookup_cons, List.lookup_cons, ih]
      split <;> rfl
  exact h n.rules

/-- With marks, the rules that have no kind of their own get the mark. -/
theorem ofRuleName?_marked (name : Text) :
    (n.marked m).ofRuleName? name = (n.ofRuleName? name).map fun k => some (k.getD m) := by
  rw [ofRuleName?, ofRuleName?, lookup_marked]
  cases n.rules.lookup name with
  | some k => rfl
  | none => cases ConstructKind.ofName? name.upperSnake <;> rfl

theorem ruleLabel_marked (ruleName nodeType : Text) :
    (n.marked m).ruleLabel ruleName nodeType = (n.ruleLabel ruleName nodeType).marked m := by
  have hfind : (Grammar.ruleCandidates ruleName nodeType).findSome? (n.marked m).ofRuleName? =
      ((Grammar.ruleCandidates ruleName nodeType).findSome? n.ofRuleName?).map
        fun k => some (k.getD m) := by
    rw [List.map_findSome?]
    exact congrArg (List.findSome? · _) (funext ofRuleName?_marked)
  rw [ruleLabel, ruleLabel, hfind]
  cases (Grammar.ruleCandidates ruleName nodeType).findSome? n.ofRuleName? <;> rfl

end Naming

namespace Importer

open Import

variable {imp : Importer} {m : Kind}

/-- The same importer, where the rules without a kind are given one. -/
def marked (imp : Importer) (m : Kind) : Importer :=
  { imp with naming := imp.naming.marked m }

/-- No rule has the kind: the naming gives it to none, it is no construct, and it is not the name of
a rule. -/
structure IsFresh (imp : Importer) (m : Kind) : Prop where
  rules : ∀ w ∈ imp.naming.rules, w.2 ≠ some m
  constructs : ∀ c, m ≠ .construct c
  names : ∀ name ∈ imp.grammar.ruleNames, m ≠ .plain name

theorem mem_ruleNames {g : Grammar} {number : Int} {name : Text}
    (h : g.ruleName? number = some name) : name ∈ g.ruleNames := by
  rw [Grammar.ruleName?] at h
  split at h
  · exact List.mem_of_getElem? h
  · dsimp only at h
    split at h
    · exact List.mem_of_getElem? h
    · cases h

/-- No rule has a fresh mark for its kind. -/
theorem IsFresh.ofRuleName?_ne (h : imp.IsFresh m) (name : Text) :
    imp.naming.ofRuleName? name ≠ some (some m) := by
  intro heq
  rw [Naming.ofRuleName?] at heq
  split at heq
  · next k hk =>
    obtain ⟨before, after, hrules, -⟩ := List.lookup_eq_some_iff.1 hk
    exact h.rules (name, k) (by simp [hrules]) (Option.some.inj heq)
  · obtain ⟨c, -, hc⟩ := Option.map_eq_some_iff.1 heq
    exact h.constructs c (Option.some.inj hc).symm

/-- A rule of the grammar never has the kind by itself. -/
theorem IsFresh.kind_ruleLabel_ne (h : imp.IsFresh m) {number : Int} {name : Text}
    (hname : imp.grammar.ruleName? number = some name) (nodeType : Text) :
    (imp.naming.ruleLabel name nodeType).kind ≠ some m := by
  rw [Naming.ruleLabel]
  cases hfind : (Grammar.ruleCandidates name nodeType).findSome? imp.naming.ofRuleName? with
  | none =>
    intro heq
    exact h.names name (mem_ruleNames hname) (Option.some.inj heq).symm
  | some k =>
    obtain ⟨candidate, -, hk⟩ := List.exists_of_findSome?_eq_some hfind
    intro heq
    exact h.ofRuleName?_ne candidate (hk.trans (congrArg some heq))

/-! ## Imports under both namings -/

/-- To contract the piece of a marked rule is to leave out the rule if it has no kind. -/
theorem rulePiece_marked {l : Label} (h : l.kind ≠ some m) (children : List Tree) :
    rulePiece l (Tree.contractAll m children) = (rulePiece (l.marked m) children).contract m := by
  match l with
  | .known none => simp [rulePiece, Label.marked, Label.kind, Piece.contract]
  | .known (some k) =>
    have hk : some k ≠ some m := h
    simp [rulePiece, Label.marked, Label.kind, Piece.contract, hk]
  | .unknown name =>
    have hk : some (Kind.plain name) ≠ some m := h
    simp [rulePiece, Label.marked, Label.kind, Piece.contract, hk]

/-- A terminal is imported alike under both namings, and there is nothing to contract. -/
theorem terminal_marked (hplain : imp.wantsHidden = false) {t : SourceToken} {place : Option Nat}
    {q : Piece} {p p' : Progress} (h : Gives (imp.terminal t place) p q p') :
    Gives ((imp.marked m).terminal t place) p q p' ∧ q.contract m = q := by
  have hplain' : ¬imp.wantsHidden := by simp [hplain]
  rw [terminal_gives]
  rcases terminal_gives.1 h with ⟨hend, rfl, rfl⟩ | ⟨hend, l, hl, ⟨-, rfl, rfl⟩ | ⟨hwants, -⟩⟩
  · exact ⟨Or.inl ⟨hend, rfl, rfl⟩, rfl⟩
  · exact ⟨Or.inr ⟨hend, l, hl, Or.inl ⟨hplain', rfl, rfl⟩⟩, rfl⟩
  · exact absurd hwants hplain'

mutual

/-- What a parse tree becomes is what it becomes with all rules kept, contracted. -/
theorem piece_marked (hplain : imp.wantsHidden = false) (hfresh : imp.IsFresh m) :
    ∀ {t : ParseTree} {q : Piece} {p p' : Progress}, Gives (imp.piece t) p q p' →
      ∃ q', Gives ((imp.marked m).piece t) p q' p' ∧ q = q'.contract m
  | .terminal i, q, p, p', h => by
    rcases piece_terminal_gives.1 h with ⟨hnone, rfl, rfl⟩ | ⟨t, ht, h⟩
    · exact ⟨.nothing, piece_terminal_gives.2 (Or.inl ⟨hnone, rfl, rfl⟩), rfl⟩
    · obtain ⟨h, hq⟩ := terminal_marked hplain h
      exact ⟨q, piece_terminal_gives.2 (Or.inr ⟨t, ht, h⟩), hq.symm⟩
  | .missing t, q, p, p', h => by
    rw [piece_missing] at h
    obtain ⟨h, hq⟩ := terminal_marked hplain h
    exact ⟨q, by rwa [piece_missing], hq.symm⟩
  | .foreign nodeType, q, p, p', h => absurd h not_piece_foreign_gives
  | .rule number nodeType ts, q, p, p', h => by
    obtain ⟨name, hname, children, hchildren, rfl⟩ := piece_rule_gives.1 h
    have hlabel : (imp.marked m).naming.ruleLabel name nodeType =
        (imp.naming.ruleLabel name nodeType).marked m := Naming.ruleLabel_marked name nodeType
    rw [← Progress.note_marked m, ← hlabel] at hchildren
    obtain ⟨us, hus, rfl⟩ := pieces_marked hplain hfresh hchildren
    refine ⟨_, piece_rule_gives.2 ⟨name, hname, us, hus, rfl⟩, ?_⟩
    rw [hlabel]
    exact rulePiece_marked (hfresh.kind_ruleLabel_ne hname nodeType) us

/-- Imports under both namings go step by step. -/
theorem pieces_marked (hplain : imp.wantsHidden = false) (hfresh : imp.IsFresh m) :
    ∀ {ts : List ParseTree} {us : List Tree} {p p' : Progress}, Gives (imp.pieces ts) p us p' →
      ∃ us', Gives ((imp.marked m).pieces ts) p us' p' ∧ us = Tree.contractAll m us'
  | [], us, p, p', h => by
    obtain ⟨rfl, rfl⟩ := pieces_nil_gives.1 h
    exact ⟨[], pieces_nil_gives.2 ⟨rfl, rfl⟩, rfl⟩
  | t :: ts, us, p, p', h => by
    obtain ⟨q, p₁, vs, hq, hvs, rfl⟩ := pieces_cons_gives.1 h
    obtain ⟨q', hq', rfl⟩ := piece_marked hplain hfresh hq
    obtain ⟨vs', hvs', rfl⟩ := pieces_marked hplain hfresh hvs
    refine ⟨_, pieces_cons_gives.2 ⟨q', p₁, vs', hq', hvs', rfl⟩, ?_⟩
    rw [Piece.trees_contract, Tree.contractAll_append]

end

/-! ## Tokens -/

/-- What is left of the tokens of terminals in an import without hidden tokens. -/
def leafSymbols (imp : Importer) (xs : List SourceToken) : List Token :=
  (xs.filter fun x => !x.isEnd).map imp.leaf

/-- A terminal has a leaf for its token, if that is no end of file. -/
theorem tokens_terminal (hplain : imp.wantsHidden = false) {t : SourceToken} {place : Option Nat}
    {q : Piece} {p p' : Progress} (h : Gives (imp.terminal t place) p q p') :
    Tree.tokensOf q.trees = imp.leafSymbols [t] := by
  rcases terminal_gives.1 h with ⟨hend, rfl, -⟩ | ⟨hend, l, -, ⟨-, rfl, -⟩ | ⟨hwants, -⟩⟩
  · simp [leafSymbols, hend, Piece.trees, Tree.tokensOf]
  · simp [leafSymbols, hend, Piece.trees, Tree.tokensOf, Tree.tokens]
  · simp [hplain] at hwants

mutual

/-- Whatever becomes of the rules, the tokens are those of the terminals. -/
theorem tokens_piece (hplain : imp.wantsHidden = false) : ∀ {t : ParseTree} {q : Piece}
    {p p' : Progress}, Gives (imp.piece t) p q p' →
      Tree.tokensOf q.trees = imp.leafSymbols (t.symbols imp.stream)
  | .terminal i, q, p, p', h => by
    rw [ParseTree.symbols]
    rcases piece_terminal_gives.1 h with ⟨hnone, rfl, -⟩ | ⟨t, ht, h⟩
    · rw [hnone]
      rfl
    · rw [ht]
      exact tokens_terminal hplain h
  | .missing t, q, p, p', h => by
    rw [piece_missing] at h
    exact tokens_terminal hplain h
  | .foreign nodeType, q, p, p', h => absurd h not_piece_foreign_gives
  | .rule number nodeType ts, q, p, p', h => by
    obtain ⟨name, -, children, hchildren, rfl⟩ := piece_rule_gives.1 h
    rw [trees_rulePiece_tokens, ParseTree.symbols]
    exact tokens_pieces hplain hchildren

/-- Without hidden tokens the leaves are those of the terminals. -/
theorem tokens_pieces (hplain : imp.wantsHidden = false) : ∀ {ts : List ParseTree} {us : List Tree}
    {p p' : Progress}, Gives (imp.pieces ts) p us p' →
      Tree.tokensOf us = imp.leafSymbols (ParseTree.symbolsOf imp.stream ts)
  | [], us, p, p', h => by
    obtain ⟨rfl, -⟩ := pieces_nil_gives.1 h
    rfl
  | t :: ts, us, p, p', h => by
    obtain ⟨q, p₁, vs, hq, hvs, rfl⟩ := pieces_cons_gives.1 h
    rw [Tree.tokensOf_append, tokens_piece hplain hq, tokens_pieces hplain hvs,
      ParseTree.symbolsOf]
    simp [leafSymbols]

end

/-! ## Whole imports -/

/-- There is always a name that nothing has yet. -/
theorem exists_isFresh (imp : Importer) : ∃ m, imp.IsFresh m := by
  have hkept : {name | some (Kind.plain name) ∈ imp.naming.rules.map Prod.snd}.Finite := by
    refine (List.finite_toSet _).preimage fun a _ b _ hab => ?_
    exact Kind.plain.inj (Option.some.inj hab)
  obtain ⟨name, hname⟩ := (hkept.union (List.finite_toSet imp.grammar.ruleNames)).exists_notMem
  rw [Set.mem_union, not_or] at hname
  refine ⟨.plain name, fun w hw heq => hname.1 ?_, nofun, fun other hother heq => hname.2 ?_⟩
  · exact List.mem_map.2 ⟨w, hw, heq⟩
  · exact Kind.plain.inj heq ▸ hother

/-- An import without hidden tokens gives what it gives when the rules without a kind get a fresh
one, once the nodes of that kind are contracted. Whatever the naming, the tokens of the tree are
those of the terminals in order, end marks left out, each with its own text. -/
theorem build_contracted {t : ParseTree} {o : Option Tree} {p : Progress}
    (hplain : imp.wantsHidden = false) (hbuild : imp.build t = (.ok o, p)) :
    (∃ m, imp.IsFresh m) ∧
    (∀ m, imp.IsFresh m → ∃ o', (imp.marked m).build t = (.ok o', p) ∧
      o = o'.map (Tree.contractRoot m)) ∧
    (let symbols := (t.symbols imp.stream).filter fun x => !x.isEnd
     o.elim [] Tree.tokens = symbols.map imp.leaf ∧
       (o.elim [] Tree.tokens).map Token.text = symbols.map SourceToken.text) := by
  obtain ⟨q, hq, rfl⟩ := build_eq_ok.1 hbuild
  have htokens : q.root?.elim [] Tree.tokens = imp.leafSymbols (t.symbols imp.stream) := by
    rw [← tokens_piece hplain hq]
    cases q with
    | nothing => rfl
    | one u => exact Piece.tokens_of_root? rfl
    | several us => rfl
  refine ⟨imp.exists_isFresh, fun m hfresh => ?_, htokens, ?_⟩
  · obtain ⟨q', hq', rfl⟩ := piece_marked hplain hfresh hq
    exact ⟨q'.root?, build_eq_ok.2 ⟨q', hq', rfl⟩, Piece.root?_contract (hfresh.constructs _) q'⟩
  · rw [htokens, leafSymbols, List.map_map]
    rfl

/-- A name in parentheses, the last of which the parser put in. -/
def parenthesized : Importer :=
  { grammar :=
      { ruleNames := ["expression", "primary", "identifier"]
        tokenNames := ["IDENTIFIER", "LPAREN", "RPAREN"] }
    naming :=
      { rules := [("primaryExpression", none), ("identifier", none),
          ("primary", some (.construct .parenthExpression))]
        tokens := [("IDENTIFIER", some (.token .identifier)),
          ("LPAREN", some (.token (.symbol .leftParen))),
          ("RPAREN", some (.token (.symbol .rightParen)))] }
    stream := { tokens := [⟨1, some (Text.ofString "("), 0⟩, ⟨0, some (Text.ofString "x"), 0⟩] }
    wantsHidden := false }

/-- The rules for the expression, which is at the root, and for the identifier leave no node. -/
theorem build_contracted_spliced_root :
    let t : ParseTree := .rule 0 "PrimaryExpressionContext" [.rule 1 "PrimaryContext" [.terminal 0,
      .rule 2 "IdentifierContext" [.terminal 1], .missing ⟨2, some (Text.ofString ")"), 0⟩],
      .terminal 2]
    let m : Kind := .plain "spliced"
    parenthesized.wantsHidden = false ∧ parenthesized.IsFresh m ∧
    ∃ u v p, parenthesized.build t = (.ok (some u), p) ∧
      (parenthesized.marked m).build t = (.ok (some v), p) ∧ v.kind = some m ∧
      u = v.contractRoot m ∧ u.kind = some (.construct .javaFile) ∧
      u.tokens.map Token.text = ["(", "x", ")"].map fun x => some (Text.ofString x) := by
  intro t m
  have hfresh : parenthesized.IsFresh m := ⟨by decide +kernel, nofun, by decide +kernel⟩
  have hbuild : parenthesized.build t =
      (.ok (some (.construct (some (.construct .javaFile)) [
        .construct (some (.construct .parenthExpression)) [
          .token ⟨some (.token (.symbol .leftParen)), some (Text.ofString "(")⟩,
          .token ⟨some (.token .identifier), some (Text.ofString "x")⟩,
          .token ⟨some (.token (.symbol .rightParen)), some (Text.ofString ")")⟩]])),
        ⟨[], []⟩) := by
    decide +kernel
  obtain ⟨-, hcontract, -, htexts⟩ := build_contracted rfl hbuild
  obtain ⟨o', hbuild', ho⟩ := hcontract m hfresh
  obtain ⟨v, rfl, hv⟩ := Option.map_eq_some_iff.1 ho.symm
  have hkind : ((parenthesized.marked m).build t).1.toOption.join.map Tree.kind =
      some (some m) := by
    decide +kernel
  rw [hbuild'] at hkind
  refine ⟨rfl, hfresh, _, v, _, hbuild, hbuild', Option.some.inj hkind, hv.symm, rfl, ?_⟩
  exact htexts.trans (by decide +kernel)

end Importer

end JavaText
