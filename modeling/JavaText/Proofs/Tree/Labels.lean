import JavaText.Canonical.Draft
import JavaText.Proofs.Tree.Document

/-!
# The labels of a tree

Storing a tree changes its labels and texts but not its shape. `Tree.relabel` is such a change, and
two of them agree on a tree if they agree on its tokens and on the kinds of its constructs
(`Tree.relabel_eq_iff`). So a tree comes back as it was if each of its labels does
(`Tree.normal_eq_iff`).

The rules for the canonical text look at few labels only. `Spacing.seen` is the part of a label that
they see, and trees that look the same to them have the same canonical text
(`Tree.canonical_eq_of_seen_eq`).
-/

namespace JavaText

namespace Tree

mutual

/-- The kinds of the constructs of a tree, each before those below it. -/
def constructKinds : Tree → List (Option Kind)
  | token _ => []
  | construct k ts => k :: constructKindsOf ts

/-- The kinds of the constructs of several trees. -/
def constructKindsOf : List Tree → List (Option Kind)
  | [] => []
  | t :: ts => constructKinds t ++ constructKindsOf ts

end

mutual

/-- A tree of the same shape, with other tokens and other kinds of constructs. -/
def relabel (f : Token → Token) (g : Option Kind → Option Kind) : Tree → Tree
  | token t => token (f t)
  | construct k ts => construct (g k) (relabelAll f g ts)

/-- Trees of the same shapes, with other tokens and other kinds of constructs. -/
def relabelAll (f : Token → Token) (g : Option Kind → Option Kind) : List Tree → List Tree
  | [] => []
  | t :: ts => relabel f g t :: relabelAll f g ts

end

section Relabel

variable {f f' : Token → Token} {g g' : Option Kind → Option Kind}

mutual

/-- Two changes of labels agree on a tree if they agree on its tokens and on the kinds of its
constructs. -/
theorem relabel_eq_iff : ∀ {t : Tree}, t.relabel f g = t.relabel f' g' ↔
    (∀ x ∈ t.tokens, f x = f' x) ∧ ∀ k ∈ t.constructKinds, g k = g' k
  | token t => by simp [relabel, tokens, constructKinds]
  | construct k ts => by
    simp only [relabel, construct.injEq, tokens, constructKinds, List.forall_mem_cons,
      relabelAll_eq_iff]
    exact and_left_comm

/-- Two ways to label trees come to the same if they agree on the labels that are there. -/
theorem relabelAll_eq_iff : ∀ {ts : List Tree}, relabelAll f g ts = relabelAll f' g' ts ↔
    (∀ x ∈ tokensOf ts, f x = f' x) ∧ ∀ k ∈ constructKindsOf ts, g k = g' k
  | [] => by simp [relabelAll, tokensOf, constructKindsOf]
  | t :: ts => by
    simp only [relabelAll, List.cons.injEq, tokensOf, constructKindsOf, List.forall_mem_append,
      relabel_eq_iff, relabelAll_eq_iff]
    exact and_and_and_comm

end

mutual

/-- Labels that are changed twice are changed once, by both. -/
theorem relabel_relabel : ∀ t : Tree, (t.relabel f g).relabel f' g' = t.relabel (f' ∘ f) (g' ∘ g)
  | token _ => rfl
  | construct k ts => by rw [relabel, relabel, relabel, relabelAll_relabelAll ts]; rfl

theorem relabelAll_relabelAll : ∀ ts : List Tree,
    relabelAll f' g' (relabelAll f g ts) = relabelAll (f' ∘ f) (g' ∘ g) ts
  | [] => rfl
  | t :: ts => by
    rw [relabelAll, relabelAll, relabelAll, relabel_relabel t, relabelAll_relabelAll ts]

end

mutual

/-- The tokens of a tree with other labels. -/
theorem tokens_relabel : ∀ t : Tree, (t.relabel f g).tokens = t.tokens.map f
  | token _ => rfl
  | construct _ ts => tokensOf_relabelAll ts

theorem tokensOf_relabelAll : ∀ ts : List Tree, tokensOf (relabelAll f g ts) = (tokensOf ts).map f
  | [] => rfl
  | t :: ts => by
    rw [relabelAll, tokensOf, tokensOf, List.map_append, tokens_relabel t, tokensOf_relabelAll ts]

end

mutual

/-- Labels that stay as they are leave the tree. -/
theorem relabel_id : ∀ t : Tree, t.relabel id id = t
  | token _ => rfl
  | construct k ts => by rw [relabel, relabelAll_id ts]; rfl

theorem relabelAll_id : ∀ ts : List Tree, relabelAll id id ts = ts
  | [] => rfl
  | t :: ts => by rw [relabelAll, relabel_id t, relabelAll_id ts]

end

end Relabel

/-! ## Labels that come back -/

mutual

/-- The normal form of a tree has other labels, and nothing else of it differs. -/
theorem normal_eq_relabel : ∀ t : Tree,
    t.normal = t.relabel Token.normal (Option.map Kind.normalOfConstruct)
  | token _ => rfl
  | construct k ts => by rw [normal, relabel, normalAll_eq_relabelAll ts]

theorem normalAll_eq_relabelAll : ∀ ts : List Tree,
    normalAll ts = relabelAll Token.normal (Option.map Kind.normalOfConstruct) ts
  | [] => rfl
  | t :: ts => by rw [normalAll, relabelAll, normal_eq_relabel t, normalAll_eq_relabelAll ts]

end

/-- A tree comes back as it was if all its tokens and all kinds of its constructs do. -/
theorem normal_eq_iff {t : Tree} : t.normal = t ↔
    (∀ x ∈ t.tokens, x.normal = x) ∧
      ∀ k ∈ t.constructKinds, k.map Kind.normalOfConstruct = k := by
  have h : t.normal = t ↔ t.normal = t.relabel id id := by rw [relabel_id]
  rw [h, normal_eq_relabel, relabel_eq_iff]
  rfl

mutual

/-- Nothing is missing in a tree just if no token and no construct lacks anything. -/
theorem isComplete_iff : ∀ {t : Tree}, t.isComplete = true ↔
    (∀ x ∈ t.tokens, x.isComplete = true) ∧ ∀ k ∈ t.constructKinds, k.isSome = true
  | token t => by simp [isComplete, tokens, constructKinds]
  | construct k ts => by
    simp only [isComplete, Bool.and_eq_true, tokens, constructKinds, List.forall_mem_cons,
      areComplete_iff]
    exact and_left_comm

/-- Trees are complete if all their labels are. -/
theorem areComplete_iff : ∀ {ts : List Tree}, areComplete ts = true ↔
    (∀ x ∈ tokensOf ts, x.isComplete = true) ∧ ∀ k ∈ constructKindsOf ts, k.isSome = true
  | [] => by simp [areComplete, tokensOf, constructKindsOf]
  | t :: ts => by
    simp only [areComplete, Bool.and_eq_true, tokensOf, constructKindsOf, List.forall_mem_append,
      isComplete_iff, areComplete_iff]
    exact and_and_and_comm

end

end Tree

/-! ## Labels that the canonical text shows -/

/-- Whether the spacing rules tell a kind of token from a plain name: they do not ask for literals
and keywords. -/
def TokenKind.isSpaced : TokenKind → Bool
  | literal _ | keyword _ => false
  | _ => true

namespace Spacing

/-- A label as the spacing rules see it: a literal, a keyword or a plain name looks like none. -/
def seen (k : Option Kind) : Option Kind :=
  k.filter fun
    | .token k => k.isSpaced
    | .construct _ => true
    | .plain _ => false

/-- A kind of token that no rule looks at is not seen. -/
theorem seen_token {k : TokenKind} (h : k.isSpaced = false) : seen (some (.token k)) = none := by
  simp [seen, Option.filter, h]

variable (k : Option Kind)

/-- Whether a kind is trivia is seen. -/
@[simp] theorem isTrivia_seen : Kind.isTrivia (seen k) = Kind.isTrivia k := by
  rcases k with _ | ((_ | _ | _ | _ | _) | _ | _) <;> rfl

/-- Whether a kind is one of some symbols is seen. -/
@[simp] theorem isOneOf_seen (symbols : List Symbol) :
    Kind.isOneOf symbols (seen k) = Kind.isOneOf symbols k := by
  rcases k with _ | ((_ | _ | _ | _ | _) | _ | _) <;> rfl

/-- Whether a kind is one of some constructs is seen. -/
@[simp] theorem isOneOfConstructs_seen (constructs : List ConstructKind) :
    Kind.isOneOfConstructs constructs (seen k) = Kind.isOneOfConstructs constructs k := by
  rcases k with _ | ((_ | _ | _ | _ | _) | _ | _) <;> rfl

@[simp] theorem seen_eq_identifier :
    seen k = some (.token .identifier) ↔ k = some (.token .identifier) := by
  rcases k with _ | ((_ | _ | _ | _ | _) | _ | _) <;> simp [seen, TokenKind.isSpaced]

@[simp] theorem seen_eq_construct (c : ConstructKind) :
    seen k = some (.construct c) ↔ k = some (.construct c) := by
  rcases k with _ | ((_ | _ | _ | _ | _) | _ | _) <;> simp [seen, TokenKind.isSpaced]

end Spacing

/-- The place of a token as the spacing rules see it. -/
def Surroundings.seen (s : Surroundings) : Surroundings :=
  { s with parent := Spacing.seen s.parent, grandparent := Spacing.seen s.grandparent }

/-- To enter a construct is to enter what is seen of it. -/
theorem Surroundings.enter_seen (s : Surroundings) (k : Option Kind) :
    s.seen.enter (Spacing.seen k) = (s.enter k).seen := by
  simp [enter, seen]

/-- A token as the spacing rules see it. -/
def Token.seen (t : Token) : Token :=
  { t with kind := Spacing.seen t.kind }

/-- A token is written as what is seen of it. -/
theorem Draft.writeToken_seen (s : Surroundings) (t : Token) (d : Draft) :
    d.writeToken s.seen t.seen = d.writeToken s t := by
  have hshown : t.seen.isVisible = t.isVisible := by
    simp [Token.isVisible, Token.seen, Token.rawText]
  have hparent : s.seen.parent = Spacing.seen s.parent := rfl
  have hgrandparent : s.seen.grandparent = Spacing.seen s.grandparent := rfl
  have hannotated : s.seen.annotated = s.annotated := rfl
  have hkind : t.seen.kind = Spacing.seen t.kind := rfl
  have htext : t.seen.rawText = t.rawText := rfl
  simp [writeToken, Spacing.acceptsSpaceBefore, Spacing.demandsSpaceBefore, Spacing.asksSpaceAfter,
    Spacing.endsLine, Spacing.isConditionalMark, Spacing.isInfixOperator, Spacing.isMethodName,
    Spacing.isVariableName, Bool.beq_eq_decide_eq, *]

namespace Tree

/-- A tree as the spacing rules see it. -/
def seen (t : Tree) : Tree :=
  t.relabel Token.seen Spacing.seen

/-- The normal form looks like the tree if the normal form of each label looks like the label. -/
theorem seen_normal_eq_iff {t : Tree} : t.normal.seen = t.seen ↔
    (∀ x ∈ t.tokens, x.normal.seen = x.seen) ∧
      ∀ k ∈ t.constructKinds, Spacing.seen (k.map Kind.normalOfConstruct) = Spacing.seen k := by
  rw [seen, seen, normal_eq_relabel, relabel_relabel, relabel_eq_iff]
  rfl

mutual

/-- A tree is written as what is seen of it. -/
theorem write_seen (s : Surroundings) : ∀ (t : Tree) (d : Draft),
    t.seen.write s.seen d = t.write s d
  | token t, d => Draft.writeToken_seen s t d
  | construct k ts, d => by
    rw [seen, relabel, write, write, Surroundings.enter_seen]
    exact writeAll_seen (s.enter k) ts d

theorem writeAll_seen (s : Surroundings) : ∀ (ts : List Tree) (d : Draft),
    writeAll s.seen (relabelAll Token.seen Spacing.seen ts) d = writeAll s ts d
  | [], _ => rfl
  | t :: ts, d => by
    rw [relabelAll, writeAll, writeAll, ← seen, write_seen s t, writeAll_seen s ts]

end

/-- Trees that look the same to the spacing rules have the same canonical text. -/
theorem canonical_eq_of_seen_eq {t u : Tree} (h : t.seen = u.seen) : t.canonical = u.canonical := by
  have hwrite (t : Tree) : t.seen.canonical = t.canonical :=
    congrArg Draft.text (write_seen .outermost t .empty)
  rw [← hwrite t, h, hwrite u]

end Tree

/-! ## Plain names -/

namespace Text

/-- Joining a pair leaves a code point that is not ASCII. -/
theorem joinPairs_eq_of_isAscii : ∀ {t : Text}, t.joinPairs.IsAscii → t.joinPairs = t
  | [], _ => rfl
  | [_], _ => rfl
  | c :: d :: t, h => by
    rw [joinPairs] at h ⊢
    split at h
    · next hpair =>
      have hlow := (isAscii_cons.1 h).1
      have hhigh : 0x10000 ≤ (CodePoint.joinSurrogates c d).val := by
        rw [CodePoint.joinSurrogates, CodePoint.val_ofNat (by omega)]
        omega
      omega
    · next hpair =>
      rw [if_neg hpair, joinPairs_eq_of_isAscii (isAscii_cons.1 h).2]

/-- Where all names are written in ASCII, joining pairs neither makes a name nor breaks one. -/
theorem find?_joinPairs {α : Type} {find? : Text → Option α}
    (hascii : ∀ n k, find? n = some k → n.IsAscii) (n : Text) : find? n.joinPairs = find? n := by
  by_cases hjoin : n.joinPairs = n
  · rw [hjoin]
  · have hnone (m : Text) (hm : ¬m.IsAscii) : find? m = none :=
      Option.eq_none_iff_forall_ne_some.2 fun k h => hm (hascii m k h)
    have hjoined : ¬n.joinPairs.IsAscii := fun h => hjoin (joinPairs_eq_of_isAscii h)
    have hplain : ¬n.IsAscii := fun h => hjoin (joinPairs_eq_iff.2 (hasPair_of_isAscii h))
    rw [hnone _ hjoined, hnone _ hplain]

end Text

namespace Kind

/-- The name that a label is, if it is of no kind. -/
def plain? : Kind → Option Text
  | plain n => some n
  | _ => none

/-- The plain kinds are those that have a name only. -/
theorem plain?_eq_some {k : Kind} {n : Text} : k.plain? = some n ↔ k = plain n := by
  cases k <;> simp [plain?]

/-- A plain name of a token becomes the kind that it names, if there is one. -/
theorem normalOfToken_plain (n : Text) :
    (plain n).normalOfToken = (((TokenKind.ofName? n).map token).getD (plain n.joinPairs)) := by
  have hname : TokenKind.ofName? n.joinPairs = TokenKind.ofName? n := by
    refine Text.find?_joinPairs (fun m k h => ?_) n
    rw [← TokenKind.name_of_ofName? h]
    exact k.ofName?_name.2
  rw [normalOfToken, name, ofTokenName, hname]
  cases TokenKind.ofName? n <;> rfl

/-- A plain name that names no kind of construct stays plain. -/
theorem normalOfConstruct_plain {n : Text} (h : ConstructKind.ofName? n = none) :
    (plain n).normalOfConstruct = plain n.joinPairs := by
  have hname : ConstructKind.ofName? n.joinPairs = ConstructKind.ofName? n := by
    refine Text.find?_joinPairs (fun m k h => ?_) n
    rw [← ConstructKind.name_of_ofName? h]
    exact k.ofName?_name.2
  rw [normalOfConstruct, name, ofConstructName, hname, h]

end Kind

namespace Tree

/-- The plain names that label tokens. -/
def tokenNames (t : Tree) : List Text :=
  t.tokens.filterMap fun x => x.kind.bind Kind.plain?

/-- The plain names that label constructs. -/
def constructNames (t : Tree) : List Text :=
  t.constructKinds.filterMap fun k => k.bind Kind.plain?

theorem mem_tokenNames {t : Tree} {n : Text} :
    n ∈ t.tokenNames ↔ ∃ x ∈ t.tokens, x.kind = some (.plain n) := by
  simp only [tokenNames, List.mem_filterMap, Option.bind_eq_some_iff, Kind.plain?_eq_some,
    exists_eq_right]

theorem mem_constructNames {t : Tree} {n : Text} :
    n ∈ t.constructNames ↔ some (.plain n) ∈ t.constructKinds := by
  simp only [constructNames, List.mem_filterMap, Option.bind_eq_some_iff, Kind.plain?_eq_some,
    exists_eq_right]

/-- A tree that is complete, without surrogate pairs in its texts, and labelled properly: a token by
a kind of token or a plain name, a construct by a kind of construct or a plain name that is that of
no such kind. A token may have the name of a kind for a plain name. -/
structure IsProper (t : Tree) : Prop where
  texts : ∀ x ∈ t.tokens, ∃ text, x.text = some text ∧ text.hasPair = false
  tokens : ∀ x ∈ t.tokens, (∃ k, x.kind = some (.token k)) ∨ ∃ n, x.kind = some (.plain n)
  constructs : ∀ k ∈ t.constructKinds, (∃ c, k = some (.construct c)) ∨
    ∃ n, k = some (.plain n) ∧ ConstructKind.ofName? n = none

namespace IsProper

variable {t : Tree}

theorem isComplete (h : t.IsProper) : t.isComplete = true := by
  refine isComplete_iff.2 ⟨fun x hx => ?_, fun k hk => ?_⟩
  · obtain ⟨text, htext, -⟩ := h.texts x hx
    obtain ⟨k, hkind⟩ | ⟨n, hkind⟩ := h.tokens x hx
    · simp [Token.isComplete, htext, hkind]
    · simp [Token.isComplete, htext, hkind]
  · obtain ⟨c, rfl⟩ | ⟨n, rfl, -⟩ := h.constructs k hk
    · rfl
    · rfl

/-- Of a token only the label can change. -/
theorem normal_token (h : t.IsProper) {x : Token} (hx : x ∈ t.tokens) :
    x.normal = { x with kind := x.kind.map Kind.normalOfToken } := by
  obtain ⟨text, htext, hpair⟩ := h.texts x hx
  rw [Token.normal, htext, Option.map_some, Text.joinPairs_eq_iff.2 hpair]

/-- A proper tree and its normal form have the same text. -/
theorem text_normal (h : t.IsProper) : t.normal.text = t.text := by
  rw [text, text, normal_eq_relabel, tokens_relabel, List.flatMap_map]
  refine congrArg List.flatten (List.map_congr_left fun x hx => ?_)
  rw [h.normal_token hx]
  rfl

/-- A proper tree comes back as it was just if no token has the name of a kind of token for a plain
name and no plain name has a surrogate pair. -/
theorem normal_eq_iff (h : t.IsProper) : t.normal = t ↔
    (∀ n ∈ t.tokenNames, TokenKind.ofName? n = none ∧ n.hasPair = false) ∧
      ∀ n ∈ t.constructNames, n.hasPair = false := by
  have htoken (x : Token) (hx : x ∈ t.tokens) : x.normal = x ↔
      ∀ n, x.kind = some (.plain n) → TokenKind.ofName? n = none ∧ n.hasPair = false := by
    rw [h.normal_token hx]
    rcases x with ⟨kind, text⟩
    obtain ⟨k, rfl⟩ | ⟨n, rfl⟩ := h.tokens _ hx
    · simp [Kind.normalOfToken_eq_iff, Kind.isNormalOfToken]
    · simp [Kind.normalOfToken_eq_iff, Kind.isNormalOfToken]
  have hconstruct (k : Option Kind) (hk : k ∈ t.constructKinds) :
      k.map Kind.normalOfConstruct = k ↔ ∀ n, k = some (.plain n) → n.hasPair = false := by
    obtain ⟨c, rfl⟩ | ⟨n, rfl, hn⟩ := h.constructs k hk
    · simp [Kind.normalOfConstruct_eq_iff, Kind.isNormalOfConstruct]
    · simp [Kind.normalOfConstruct_eq_iff, Kind.isNormalOfConstruct, hn]
  rw [Tree.normal_eq_iff, forall₂_congr htoken, forall₂_congr hconstruct]
  constructor
  · rintro ⟨htokens, hconstructs⟩
    refine ⟨fun n hn => ?_, fun n hn => hconstructs _ (mem_constructNames.1 hn) n rfl⟩
    obtain ⟨x, hx, hkind⟩ := mem_tokenNames.1 hn
    exact htokens x hx n hkind
  · rintro ⟨htokens, hconstructs⟩
    refine ⟨fun x hx n hkind => htokens n (mem_tokenNames.2 ⟨x, hx, hkind⟩), ?_⟩
    rintro _ hk n rfl
    exact hconstructs n (mem_constructNames.2 hk)

/-- The spacing rules see no difference between a proper tree and the one that comes back if all
plain names of tokens that are those of kinds are those of kinds that the rules do not ask for. -/
theorem seen_normal (h : t.IsProper)
    (hnames : ∀ n ∈ t.tokenNames, ∀ k, TokenKind.ofName? n = some k → k.isSpaced = false) :
    t.normal.seen = t.seen := by
  refine seen_normal_eq_iff.2 ⟨fun x hx => ?_, fun k hk => ?_⟩
  · rw [h.normal_token hx, Token.seen, Token.seen]
    refine congrArg (Token.mk · x.text) ?_
    obtain ⟨k, hkind⟩ | ⟨n, hkind⟩ := h.tokens x hx
    · rw [hkind, Option.map_some, Kind.normalOfToken_eq_iff.2 rfl]
    · rw [hkind, Option.map_some, Kind.normalOfToken_plain]
      cases hk : TokenKind.ofName? n with
      | none => rfl
      | some k =>
        have hspaced := hnames n (mem_tokenNames.2 ⟨x, hx, hkind⟩) k hk
        exact Spacing.seen_token hspaced
  · obtain ⟨c, rfl⟩ | ⟨n, rfl, hn⟩ := h.constructs k hk
    · rw [Option.map_some, Kind.normalOfConstruct_eq_iff.2 rfl]
    · rw [Option.map_some, Kind.normalOfConstruct_plain hn]
      rfl

end IsProper

end Tree

end JavaText
