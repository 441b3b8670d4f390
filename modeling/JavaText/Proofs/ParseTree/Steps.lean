import JavaText.ParseTree.Import

/-!
# The steps of an import

What each step of an import gives when it succeeds, said once for all that is proved about imports.
`Import.Gives` relates a step and the progress before it to its result and the progress after it,
and the lemmas here turn it around for each kind of node of a parse tree.

The hidden tokens beside a terminal are placed in one go: those that are not placed yet become
leaves, in order (`Importer.hidden_gives`).
-/

namespace JavaText

namespace ParseTree

mutual

/-- The tokens of a tree that the stream does not have. -/
def strays : ParseTree → List SourceToken
  | terminal _ => []
  | missing t => [t]
  | rule _ _ ts => straysOf ts
  | foreign _ => []

/-- The tokens of several trees that the stream does not have. -/
def straysOf : List ParseTree → List SourceToken
  | [] => []
  | t :: ts => strays t ++ straysOf ts

end

end ParseTree

namespace Tree

theorem tokensOf_append (us : List Tree) : ∀ ts : List Tree,
    tokensOf (ts ++ us) = tokensOf ts ++ tokensOf us
  | [] => rfl
  | t :: ts => by
    rw [List.cons_append, tokensOf, tokensOf, tokensOf_append us ts, List.append_assoc]

theorem tokensOf_map_token : ∀ ts : List Token, tokensOf (ts.map .token) = ts
  | [] => rfl
  | t :: ts => by
    rw [List.map_cons, tokensOf, tokens, tokensOf_map_token ts, List.singleton_append]

end Tree

/-- The root of a piece has the tokens of the trees that the piece leaves. -/
theorem Piece.tokens_of_root? {q : Piece} {u : Tree} (h : q.root? = some u) :
    u.tokens = Tree.tokensOf q.trees := by
  cases q with
  | nothing => cases h
  | one t => cases h; simp [Piece.trees, Tree.tokensOf]
  | several ts => cases h; rfl

/-! ## Running steps -/

namespace Import

variable {α β : Type} {p p' : Progress}

/-- What a step comes to. -/
def outcome (x : Import α) (p : Progress) : Except ImportError α × Progress :=
  x.run p

/-- A step succeeds with a result and comes so far. -/
def Gives (x : Import α) (p : Progress) (a : α) (p' : Progress) : Prop :=
  outcome x p = (.ok a, p')

@[simp] theorem gives_pure {a b : α} : Gives (pure a) p b p' ↔ a = b ∧ p = p' := by
  change ((.ok a, p) : Except ImportError α × Progress) = (.ok b, p') ↔ _
  simp

@[simp] theorem not_gives_throw {e : ImportError} {a : α} : ¬Gives (throw e) p a p' := by
  change ((.error e, p) : Except ImportError α × Progress) ≠ (.ok a, p')
  simp

@[simp] theorem gives_modify {f : Progress → Progress} {u : PUnit} :
    Gives (modify f) p u p' ↔ f p = p' := by
  change ((.ok ⟨⟩, f p) : Except ImportError PUnit × Progress) = (.ok u, p') ↔ _
  simp

@[simp] theorem gives_get {q : Progress} : Gives get p q p' ↔ p = q ∧ p = p' := by
  change ((.ok p, p) : Except ImportError Progress × Progress) = (.ok q, p') ↔ _
  simp

/-- Two steps succeed one after the other. -/
@[simp] theorem gives_bind {x : Import α} {f : α → Import β} {b : β} :
    Gives (x >>= f) p b p' ↔ ∃ a p₁, Gives x p a p₁ ∧ Gives (f a) p₁ b p' := by
  have h : outcome (x >>= f) p = ExceptT.bindCont f (outcome x p).1 (outcome x p).2 := rfl
  unfold Gives
  rw [h]
  rcases outcome x p with ⟨e | a, p₁⟩
  · change ((.error e, p₁) : Except ImportError β × Progress) = (.ok b, p') ↔ _
    simp
  · change outcome (f a) p₁ = (.ok b, p') ↔ _
    refine ⟨fun h => ⟨a, p₁, rfl, h⟩, ?_⟩
    rintro ⟨_, _, heq, h⟩
    cases heq
    exact h

/-- A choice gives what the branch gives that is taken. -/
@[simp] theorem gives_ite {c : Prop} [Decidable c] {x y : Import α} {a : α} :
    Gives (if c then x else y) p a p' ↔ (c ∧ Gives x p a p') ∨ (¬c ∧ Gives y p a p') := by
  split <;> simp [*]

end Import

namespace Progress

@[simp] theorem record_note (l : Label) (p : Progress) : Record.note l p = p.note l :=
  rfl

@[simp] theorem record_place (i : Nat) (p : Progress) : Record.place i p = p.place i :=
  rfl

@[simp] theorem record_placed (p : Progress) : Record.placed p = p.placed :=
  rfl

/-- A label says nothing about the tokens that have a place. -/
@[simp] theorem placed_note (l : Label) (p : Progress) : (p.note l).placed = p.placed :=
  rfl

end Progress

namespace Importer

open Import

variable {imp : Importer} {p p' : Progress}

/-- The same importer, with or without hidden tokens. -/
def wanting (imp : Importer) (wantsHidden : Bool) : Importer :=
  { imp with wantsHidden }

/-! ## Tokens -/

/-- What the naming says about a token. -/
def label? (imp : Importer) (t : SourceToken) : Option Label :=
  imp.naming.tokenLabel? (imp.grammar.tokenName t.number) t.text

/-- The token of a tree that a token of the stream becomes. -/
def leaf (imp : Importer) (t : SourceToken) : Token :=
  { kind := (imp.label? t).bind Label.kind, text := t.text }

/-- The tokens of a tree that tokens of the stream become. -/
def leaves (imp : Importer) (xs : List (SourceToken × Nat)) : List Token :=
  xs.map fun x => imp.leaf x.1

/-- A token becomes a leaf if it has a label, which is noted. -/
theorem token_gives {t : SourceToken} {u : Tree} : Gives (imp.token t) p u p' ↔
    ∃ l, imp.label? t = some l ∧ u = .token (imp.leaf t) ∧ p' = p.note l := by
  unfold token leaf
  rw [← label?]
  cases imp.label? t with
  | none => simp
  | some l =>
    simp only [gives_bind, gives_modify, gives_pure, Option.bind_some, Option.some.injEq]
    constructor
    · rintro ⟨-, _, rfl, rfl, rfl⟩
      exact ⟨l, rfl, rfl, rfl⟩
    · rintro ⟨_, rfl, rfl, rfl⟩
      exact ⟨⟨⟩, _, rfl, rfl, rfl⟩

/-! ## Hidden tokens -/

/-- The tokens of a run that are not placed yet. -/
def unplaced (placed : List Nat) (run : List (SourceToken × Nat)) : List (SourceToken × Nat) :=
  run.filter fun x => !placed.contains x.2

/-- A token outside a run that gets a place takes nothing out of the run. -/
theorem unplaced_place {placed : List Nat} {run : List (SourceToken × Nat)} {i : Nat}
    (h : i ∉ run.map Prod.snd) : unplaced (i :: placed) run = unplaced placed run := by
  refine List.filter_congr fun x hx => ?_
  have hne : x.2 ≠ i := fun heq => h (heq ▸ List.mem_map_of_mem hx)
  simp [hne]

/-- Of a run of hidden tokens those become leaves that are not placed yet, and they are then placed.
-/
theorem hidden_gives : ∀ {run : List (SourceToken × Nat)} {p p' : Progress} {us : List Tree},
    (run.map Prod.snd).Nodup → Gives (imp.hidden run) p us p' →
      us = (imp.leaves (unplaced p.placed run)).map .token ∧
        p'.placed = ((unplaced p.placed run).map Prod.snd).reverse ++ p.placed
  | [], p, p', us, _, h => by
    rw [hidden, gives_pure] at h
    obtain ⟨rfl, rfl⟩ := h
    exact ⟨rfl, rfl⟩
  | (t, i) :: run, p, p', us, hnodup, h => by
    obtain ⟨hi, hnodup⟩ := List.nodup_cons.1 hnodup
    simp only [hidden, gives_bind, gives_get, gives_ite, gives_modify, gives_pure, token_gives,
      Progress.record_place, Progress.record_placed] at h
    obtain ⟨q, q', ⟨rfl, rfl⟩, ⟨hplaced, h⟩ | ⟨hplaced, h⟩⟩ := h
    · rw [unplaced, List.filter_cons_of_neg (by simpa using hplaced)]
      exact hidden_gives hnodup h
    · obtain ⟨_, _, ⟨l, -, rfl, rfl⟩, -, _, rfl, us', _, h, rfl, rfl⟩ := h
      obtain ⟨rfl, hplaced'⟩ := hidden_gives hnodup h
      have hnext : ((p.note l).place i).placed = i :: p.placed := rfl
      rw [hnext, unplaced_place hi] at hplaced' ⊢
      have hfirst : unplaced p.placed ((t, i) :: run) = (t, i) :: unplaced p.placed run :=
        List.filter_cons_of_pos (by simpa using hplaced)
      rw [hfirst, hplaced']
      simp [leaves]

/-- Hidden tokens that all have labels are imported. -/
theorem exists_hidden_gives : ∀ {run : List (SourceToken × Nat)} (p : Progress),
    (∀ x ∈ run, (imp.label? x.1).isSome) → ∃ us p', Gives (imp.hidden run) p us p'
  | [], p, _ => ⟨[], p, gives_pure.2 ⟨rfl, rfl⟩⟩
  | (t, i) :: run, p, h => by
    obtain ⟨hlabel, h⟩ := List.forall_mem_cons.1 h
    obtain ⟨l, hl⟩ := Option.isSome_iff_exists.1 hlabel
    simp only [hidden, gives_bind, gives_get, gives_ite, gives_modify, gives_pure, token_gives,
      Progress.record_place, Progress.record_placed]
    by_cases hplaced : p.placed.contains i = true
    · obtain ⟨us, p', hus⟩ := exists_hidden_gives p h
      exact ⟨us, p', p, p, ⟨rfl, rfl⟩, Or.inl ⟨hplaced, hus⟩⟩
    · obtain ⟨us, p', hus⟩ := exists_hidden_gives ((p.note l).place i) h
      exact ⟨_, p', p, p, ⟨rfl, rfl⟩, Or.inr ⟨hplaced, _, _, ⟨l, hl, rfl, rfl⟩, ⟨⟩, _, rfl, us, p',
        hus, rfl, rfl⟩⟩

/-! ## Terminals -/

/-- A terminal: the end mark leaves nothing, another token becomes a leaf, with the hidden tokens
beside its place if they are wanted. -/
theorem terminal_gives {t : SourceToken} {place : Option Nat} {q : Piece} :
    Gives (imp.terminal t place) p q p' ↔
      (t.isEnd ∧ q = .nothing ∧ p' = p) ∨
      (¬t.isEnd ∧ ∃ l, imp.label? t = some l ∧
        ((¬imp.wantsHidden ∧ q = .one (.token (imp.leaf t)) ∧ p' = p.note l) ∨
        (imp.wantsHidden ∧ ∃ i before after p₁, place = some i ∧ i ≤ imp.stream.last ∧
          Gives (imp.hidden (imp.stream.hiddenBefore i)) (p.note l) before p₁ ∧
          Gives (imp.hidden (imp.stream.hiddenAfter i)) p₁ after p' ∧
          q = .several (before ++ .token (imp.leaf t) :: after)))) := by
  simp only [terminal, gives_bind, gives_ite, gives_pure, token_gives, Bool.not_eq_true']
  constructor
  · rintro (⟨hend, rfl, rfl⟩ | ⟨hend, _, _, ⟨l, hl, rfl, rfl⟩, ⟨hplain, rfl, rfl⟩ | ⟨hwants, h⟩⟩)
    · exact Or.inl ⟨hend, rfl, rfl⟩
    · exact Or.inr ⟨hend, l, hl, Or.inl ⟨by simp [hplain], rfl, rfl⟩⟩
    · refine Or.inr ⟨hend, l, hl, Or.inr ⟨by simpa using hwants, ?_⟩⟩
      cases place with
      | none => exact absurd h not_gives_throw
      | some i =>
        simp only [gives_ite, gives_bind, not_gives_throw, false_and, exists_false, and_false,
          false_or, gives_pure, Nat.not_lt] at h
        obtain ⟨hle, before, p₁, hbefore, after, p₂, hafter, rfl, rfl⟩ := h
        exact ⟨i, before, after, p₁, rfl, hle, hbefore, hafter, rfl⟩
  · rintro (⟨hend, rfl, rfl⟩ | ⟨hend, l, hl, ⟨hplain, rfl, rfl⟩ | ⟨hwants, h⟩⟩)
    · exact Or.inl ⟨hend, rfl, rfl⟩
    · exact Or.inr ⟨hend, _, _, ⟨l, hl, rfl, rfl⟩, Or.inl ⟨by simpa using hplain, rfl, rfl⟩⟩
    · obtain ⟨i, before, after, p₁, rfl, hle, hbefore, hafter, rfl⟩ := h
      refine Or.inr ⟨hend, _, _, ⟨l, hl, rfl, rfl⟩, Or.inr ⟨by simpa using hwants, ?_⟩⟩
      simp only [gives_ite, gives_bind, not_gives_throw, false_and, exists_false, and_false,
        false_or, gives_pure, Nat.not_lt]
      exact ⟨hle, before, p₁, hbefore, after, p', hafter, rfl, rfl⟩

/-! ## Nodes -/

/-- A terminal whose token the stream does not have becomes nothing. -/
theorem piece_terminal_gives {i : Nat} {q : Piece} : Gives (imp.piece (.terminal i)) p q p' ↔
    (imp.stream.tokens[i]? = none ∧ q = .nothing ∧ p' = p) ∨
      ∃ t, imp.stream.tokens[i]? = some t ∧ Gives (imp.terminal t (some i)) p q p' := by
  rw [piece]
  cases imp.stream.tokens[i]? with
  | none => simp [eq_comm]
  | some t => simp

/-- A terminal that the parser made up is imported without a place. -/
theorem piece_missing (t : SourceToken) :
    (imp.piece (.missing t) : Import Piece) = imp.terminal t none := by
  rw [piece]

/-- A node of an unknown type is no part of an import that gives a tree. -/
theorem not_piece_foreign_gives {nodeType : Text} {q : Piece} :
    ¬Gives (imp.piece (.foreign nodeType)) p q p' := by
  rw [piece]
  exact not_gives_throw

/-- The piece that a rule with a label makes of the trees below it. -/
def rulePiece (l : Label) (children : List Tree) : Piece :=
  match l.kind with
  | none => .several children
  | some k => .one (.construct (some k) children)

@[simp] theorem trees_rulePiece_tokens (l : Label) (children : List Tree) :
    Tree.tokensOf (rulePiece l children).trees = Tree.tokensOf children := by
  unfold rulePiece
  cases l.kind with
  | none => rfl
  | some k => simp [Piece.trees, Tree.tokensOf, Tree.tokens]

/-- A rule is noted before its children are imported. -/
theorem piece_rule_gives {number : Int} {nodeType : Text} {ts : List ParseTree} {q : Piece} :
    Gives (imp.piece (.rule number nodeType ts)) p q p' ↔
      ∃ name, imp.grammar.ruleName? number = some name ∧
        ∃ children,
          Gives (imp.pieces ts) (p.note (imp.naming.ruleLabel name nodeType)) children p' ∧
          q = rulePiece (imp.naming.ruleLabel name nodeType) children := by
  rw [piece]
  cases imp.grammar.ruleName? number with
  | none => simp
  | some name =>
    simp only [gives_bind, gives_modify, Option.some.injEq, exists_eq_left']
    constructor
    · rintro ⟨-, children, p₁, h, hq⟩
      refine ⟨children, ?_⟩
      unfold rulePiece
      revert hq
      cases (imp.naming.ruleLabel name nodeType).kind with
      | none =>
        intro hq
        obtain ⟨rfl, rfl⟩ := gives_pure.1 hq
        exact ⟨h, rfl⟩
      | some k =>
        intro hq
        obtain ⟨rfl, rfl⟩ := gives_pure.1 hq
        exact ⟨h, rfl⟩
    · rintro ⟨children, h, rfl⟩
      refine ⟨⟨⟩, children, p', h, ?_⟩
      unfold rulePiece
      cases (imp.naming.ruleLabel name nodeType).kind <;> simp

theorem pieces_nil_gives {us : List Tree} : Gives (imp.pieces []) p us p' ↔ us = [] ∧ p' = p := by
  rw [pieces, gives_pure, eq_comm, @eq_comm _ p]

/-- Children are imported in order. -/
theorem pieces_cons_gives {t : ParseTree} {ts : List ParseTree} {us : List Tree} :
    Gives (imp.pieces (t :: ts)) p us p' ↔ ∃ q p₁ vs, Gives (imp.piece t) p q p₁ ∧
      Gives (imp.pieces ts) p₁ vs p' ∧ us = q.trees ++ vs := by
  rw [pieces]
  simp only [gives_bind, gives_pure]
  constructor
  · rintro ⟨q, p₁, hq, vs, p₂, hvs, rfl, rfl⟩
    exact ⟨q, p₁, vs, hq, hvs, rfl⟩
  · rintro ⟨q, p₁, vs, hq, hvs, rfl⟩
    exact ⟨q, p₁, hq, vs, p', hvs, rfl, rfl⟩

/-! ## Whole imports -/

/-- An import succeeds if its piece does. -/
theorem build_eq_ok {t : ParseTree} {o : Option Tree} :
    imp.build t = (.ok o, p') ↔ ∃ q, Gives (imp.piece t) .start q p' ∧ o = q.root? := by
  have h : imp.build t = match outcome (imp.piece t) .start with
      | (.ok p, progress) => (.ok p.root?, progress)
      | (.error e, progress) => (.error e, progress) := rfl
  rw [h]
  unfold Gives
  rcases outcome (imp.piece t) .start with ⟨e | q, p₁⟩
  · simp
  · simp only [Prod.mk.injEq, Except.ok.injEq]
    constructor
    · rintro ⟨rfl, rfl⟩
      exact ⟨q, ⟨rfl, rfl⟩, rfl⟩
    · rintro ⟨_, ⟨rfl, rfl⟩, rfl⟩
      exact ⟨rfl, rfl⟩

end Importer

end JavaText
