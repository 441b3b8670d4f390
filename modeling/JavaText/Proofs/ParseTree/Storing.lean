import JavaText.ParseTree.Java
import JavaText.Proofs.ParseTree.Window
import JavaText.Proofs.Tree.Bytes
import JavaText.Proofs.Tree.Labels

/-!
# Imported trees that are stored

Every token of an imported tree is the leaf of a token of the source that has a label, and every
construct has the label of a rule (`Importer.labelled_piece`). The naming for Java gives kinds of
tokens to tokens and kinds of constructs to rules; else the name is kept. The name that a rule keeps
is never that of a kind of construct, since every rule is looked up among them
(`Naming.kind_ruleLabel_java`). The name that a token keeps may be that of a kind of token, since
tokens are looked up among the keywords only.

Such a name comes back from a document as the kind. So an imported tree comes back as it was just
if no token keeps such a name, and its canonical text is the same if each of them is the name of a
literal or of a keyword (`Importer.build_round_trip`). The name of a symbol can change the canonical
text (`Importer.build_round_trip_kind_names`).
-/

namespace JavaText

/-! ## The labels of an import -/

namespace Tree

theorem constructKindsOf_append (us : List Tree) : ∀ ts : List Tree,
    constructKindsOf (ts ++ us) = constructKindsOf ts ++ constructKindsOf us := by
  intro ts
  induction ts with
  | nil => rfl
  | cons t ts ih =>
    rw [List.cons_append, constructKindsOf, constructKindsOf, ih, List.append_assoc]

end Tree

/-- A tree that is put together at the root has no construct of its own but the file. -/
theorem Piece.constructKinds_of_root? {q : Piece} {u : Tree} (h : q.root? = some u)
    {k : Option Kind} (hk : k ∈ u.constructKinds) :
    k = some (.construct .javaFile) ∨ k ∈ Tree.constructKindsOf q.trees := by
  cases q with
  | nothing => cases h
  | one t =>
    cases h
    exact Or.inr (by simpa [Piece.trees, Tree.constructKindsOf] using hk)
  | several ts =>
    cases h
    exact List.mem_cons.1 hk

namespace Importer

open Import JavaText.Tree

variable {imp : Importer} {xs : List SourceToken} {p p' : Progress}

/-- The tokens of trees are leaves of tokens of the source that have labels, and the constructs have
labels of rules. -/
structure Labelled (imp : Importer) (xs : List SourceToken) (us : List Tree) : Prop where
  tokens : ∀ y ∈ tokensOf us, ∃ x ∈ xs, ∃ l, imp.label? x = some l ∧ y = imp.leaf x
  constructs : ∀ k ∈ constructKindsOf us, ∃ c name nodeType, k = some c ∧
    (imp.naming.ruleLabel name nodeType).kind = some c

namespace Labelled

variable {us vs : List Tree}

theorem nil : imp.Labelled xs [] :=
  ⟨nofun, nofun⟩

theorem append (h : imp.Labelled xs us) (h' : imp.Labelled xs vs) : imp.Labelled xs (us ++ vs) := by
  constructor
  · rw [tokensOf_append, List.forall_mem_append]
    exact ⟨h.tokens, h'.tokens⟩
  · rw [constructKindsOf_append, List.forall_mem_append]
    exact ⟨h.constructs, h'.constructs⟩

theorem leaf {x : SourceToken} {l : Label} (hx : x ∈ xs) (hl : imp.label? x = some l) :
    imp.Labelled xs [.token (imp.leaf x)] := by
  refine ⟨fun y hy => ?_, nofun⟩
  obtain rfl := List.mem_singleton.1 hy
  exact ⟨x, hx, l, hl, rfl⟩

theorem rule (h : imp.Labelled xs us) (name nodeType : Text) :
    imp.Labelled xs (rulePiece (imp.naming.ruleLabel name nodeType) us).trees := by
  refine ⟨by rw [trees_rulePiece_tokens]; exact h.tokens, ?_⟩
  unfold rulePiece
  cases hkind : (imp.naming.ruleLabel name nodeType).kind with
  | none => exact h.constructs
  | some c =>
    simp only [Piece.trees, constructKindsOf, constructKinds, List.append_nil,
      List.forall_mem_cons]
    exact ⟨⟨c, name, nodeType, rfl, hkind⟩, h.constructs⟩

end Labelled

theorem labelled_hidden : ∀ {run : List (SourceToken × Nat)} {p p' : Progress} {us : List Tree},
    (∀ x ∈ run, x.1 ∈ xs) → Gives (imp.hidden run) p us p' → imp.Labelled xs us
  | [], p, p', us, _, h => by
    rw [hidden, gives_pure] at h
    obtain ⟨rfl, -⟩ := h
    exact .nil
  | (t, i) :: run, p, p', us, hrun, h => by
    obtain ⟨ht, hrun⟩ := List.forall_mem_cons.1 hrun
    simp only [hidden, gives_bind, gives_get, gives_ite, gives_modify, gives_pure, token_gives] at h
    obtain ⟨q, q', ⟨rfl, rfl⟩, ⟨-, h⟩ | ⟨-, h⟩⟩ := h
    · exact labelled_hidden hrun h
    · obtain ⟨_, _, ⟨l, hl, rfl, rfl⟩, -, _, rfl, us', _, h, rfl, rfl⟩ := h
      exact (Labelled.leaf ht hl).append (labelled_hidden hrun h)

theorem labelled_terminal {t : SourceToken} {place : Option Nat} {q : Piece}
    (hstream : ∀ x ∈ imp.stream.tokens, x ∈ xs) (ht : t ∈ xs)
    (h : Gives (imp.terminal t place) p q p') : imp.Labelled xs q.trees := by
  have hbeside {i : Nat} {x : SourceToken × Nat} (hx : imp.stream.Beside i x) : x.1 ∈ xs := by
    obtain ⟨hget, -⟩ := TokenStream.mem_numbered.1 hx.mem_numbered
    exact hstream x.1 (List.mem_of_getElem? hget)
  rcases terminal_gives.1 h with ⟨-, rfl, -⟩ | ⟨-, l, hl, ⟨-, rfl, -⟩ | ⟨-, h⟩⟩
  · exact .nil
  · exact .leaf ht hl
  · obtain ⟨i, before, after, p₁, -, -, hbefore, hafter, rfl⟩ := h
    have hleft : imp.Labelled xs before := labelled_hidden (fun x hx => hbeside (.inl hx)) hbefore
    have hright : imp.Labelled xs after := labelled_hidden (fun x hx => hbeside (.inr hx)) hafter
    exact hleft.append ((Labelled.leaf ht hl).append hright)

mutual

/-- What a parse tree becomes is labelled by the tokens of the stream and those that the stream does
not have. -/
theorem labelled_piece (hstream : ∀ x ∈ imp.stream.tokens, x ∈ xs) : ∀ {t : ParseTree} {q : Piece}
    {p p' : Progress}, (∀ x ∈ t.strays, x ∈ xs) → Gives (imp.piece t) p q p' →
      imp.Labelled xs q.trees
  | .terminal i, q, p, p', _, h => by
    rcases piece_terminal_gives.1 h with ⟨-, rfl, -⟩ | ⟨t, ht, h⟩
    · exact .nil
    · exact labelled_terminal hstream (hstream t (List.mem_of_getElem? ht)) h
  | .missing t, q, p, p', hstrays, h => by
    rw [piece_missing] at h
    exact labelled_terminal hstream (hstrays t List.mem_cons_self) h
  | .foreign nodeType, q, p, p', _, h => absurd h not_piece_foreign_gives
  | .rule number nodeType ts, q, p, p', hstrays, h => by
    obtain ⟨name, -, children, hchildren, rfl⟩ := piece_rule_gives.1 h
    exact (labelled_pieces hstream hstrays hchildren).rule name nodeType

theorem labelled_pieces (hstream : ∀ x ∈ imp.stream.tokens, x ∈ xs) : ∀ {ts : List ParseTree}
    {us : List Tree} {p p' : Progress}, (∀ x ∈ ParseTree.straysOf ts, x ∈ xs) →
      Gives (imp.pieces ts) p us p' → imp.Labelled xs us
  | [], us, p, p', _, h => by
    obtain ⟨rfl, -⟩ := pieces_nil_gives.1 h
    exact .nil
  | t :: ts, us, p, p', hstrays, h => by
    obtain ⟨hstray, hstrays⟩ := List.forall_mem_append.1 hstrays
    obtain ⟨q, p₁, vs, hq, hvs, rfl⟩ := pieces_cons_gives.1 h
    exact (labelled_piece hstream hstray hq).append (labelled_pieces hstream hstrays hvs)

end

end Importer

/-! ## The labels of the naming for Java -/

namespace Naming

/-- What is found for the name of a token is a kind of token. -/
theorem ofTokenName?_java {name : Text} {k : Option Kind} (h : java.ofTokenName? name = some k) :
    ∃ c, k = some (.token c) := by
  unfold ofTokenName? at h
  split at h
  · next k' hlookup =>
    obtain rfl := Option.some.inj h
    obtain ⟨⟨_, c⟩, -, hentry⟩ := List.mem_map.1 (mem_of_lookup hlookup)
    obtain ⟨-, rfl⟩ := Prod.mk.inj hentry
    exact ⟨c, rfl⟩
  · obtain ⟨c, -, rfl⟩ := Option.map_eq_some_iff.1 h
    exact ⟨c, rfl⟩

/-- A token is labelled by a kind of token or keeps its name. -/
theorem kind_tokenLabel?_java {name : Text} {text : Option Text} {l : Label}
    (h : java.tokenLabel? name text = some l) :
    (∃ k, l.kind = some (.token k)) ∨ ∃ n, l.kind = some (.plain n) := by
  unfold tokenLabel? at h
  split at h
  · next k hk =>
    obtain ⟨c, rfl⟩ := ofTokenName?_java hk
    obtain rfl := Option.some.inj h
    exact Or.inl ⟨c, rfl⟩
  · cases h
  · split at h
    · next k hk =>
      obtain rfl := Option.some.inj h
      exact Or.inl ⟨k, rfl⟩
    · obtain rfl := Option.some.inj h
      exact Or.inr ⟨name, rfl⟩

/-- Every name of a kind of construct is in upper case already. -/
theorem upperSnake_name (c : ConstructKind) : c.name.upperSnake = c.name := by
  have h : ConstructKind.all.all (fun c => c.name.upperSnake == c.name) = true := by decide +kernel
  exact beq_iff_eq.1 (List.all_eq_true.1 h c c.mem_all)

/-- What is found for the name of a rule is a kind of construct or that there is none. -/
theorem ofRuleName?_java {name : Text} {k : Kind} (h : java.ofRuleName? name = some (some k)) :
    ∃ c, k = .construct c := by
  unfold ofRuleName? at h
  split at h
  · next k' hlookup =>
    obtain rfl := Option.some.inj h
    obtain ⟨⟨_, c⟩, -, hentry⟩ := List.mem_map.1 (mem_of_lookup hlookup)
    obtain ⟨-, hkind⟩ := Prod.mk.inj hentry
    obtain ⟨c, -, rfl⟩ := Option.map_eq_some_iff.1 hkind
    exact ⟨c, rfl⟩
  · obtain ⟨c, -, hc⟩ := Option.map_eq_some_iff.1 h
    exact ⟨c, (Option.some.inj hc).symm⟩

/-- A name for which nothing is found is that of no kind of construct. -/
theorem ofName?_of_ofRuleName? {n : Naming} {name : Text} (h : n.ofRuleName? name = none) :
    ConstructKind.ofName? name = none := by
  refine Option.eq_none_iff_forall_ne_some.2 fun c hc => ?_
  unfold ofRuleName? at h
  split at h
  · cases h
  · rw [← ConstructKind.name_of_ofName? hc, upperSnake_name, c.ofName?_name.1] at h
    cases h

/-- A rule is labelled by a kind of construct, or keeps a name that is that of no kind of
construct. -/
theorem kind_ruleLabel_java {name nodeType : Text} {k : Kind}
    (h : (java.ruleLabel name nodeType).kind = some k) :
    (∃ c, k = .construct c) ∨ ∃ n, k = .plain n ∧ ConstructKind.ofName? n = none := by
  unfold ruleLabel at h
  split at h
  · next k' hfound =>
    obtain ⟨candidate, -, hcandidate⟩ := List.exists_of_findSome?_eq_some hfound
    rw [show k' = some k from h] at hcandidate
    exact Or.inl (ofRuleName?_java hcandidate)
  · next hnone =>
    obtain rfl : Kind.plain name = k := Option.some.inj h
    have hname : name ∈ Grammar.ruleCandidates name nodeType := by simp [Grammar.ruleCandidates]
    exact Or.inr ⟨name, rfl, ofName?_of_ofRuleName? (List.findSome?_eq_none_iff.1 hnone name hname)⟩

end Naming

/-! ## Storing -/

/-- A tree in which nothing is missing comes back from UTF-8 as the normalized tree, under every
limit that its document keeps to. -/
theorem Codec.standard_round_trip {u : Tree} (h : u.isComplete) :
    ∃ bs, standard.encode u = .ok bs ∧
      ∀ limit, u.toJson.FitsIn limit → standard.decode limit bs = .ok (some u.normal) := by
  have husable : standard.isUsable = true := isUsable_of_mem (by decide) (by decide)
  obtain ⟨bs, hencode, hdecode⟩ := decode_encode husable u
  rw [if_pos h] at hdecode
  exact ⟨bs, hencode, hdecode⟩

namespace Importer

open Import JavaText.Tree

variable {imp : Importer} {xs : List SourceToken}

/-- The leaf of a token is labelled by a kind of token or by a plain name. -/
theorem kind_leaf_java (hnaming : imp.naming = .java) {x : SourceToken} {l : Label}
    (hl : imp.label? x = some l) :
    (∃ k, (imp.leaf x).kind = some (.token k)) ∨ ∃ n, (imp.leaf x).kind = some (.plain n) := by
  have hkind : (imp.leaf x).kind = l.kind := by rw [leaf, hl, Option.bind_some]
  rw [label?, hnaming] at hl
  rw [hkind]
  exact Naming.kind_tokenLabel?_java hl

/-- A tree that the naming for Java gives is proper if no text of the source has a surrogate
pair. -/
theorem isProper_of_build (hnaming : imp.naming = .java) {t : ParseTree} {u : Tree} {p : Progress}
    (htexts : ∀ x ∈ imp.stream.tokens ++ t.strays, x.text.any fun text => !text.hasPair)
    (hbuild : imp.build t = (.ok (some u), p)) : u.IsProper := by
  obtain ⟨q, hq, hroot⟩ := build_eq_ok.1 hbuild
  have hlabelled : imp.Labelled (imp.stream.tokens ++ t.strays) q.trees := labelled_piece
    (fun x hx => List.mem_append_left _ hx) (fun x hx => List.mem_append_right _ hx) hq
  have htokens : ∀ y ∈ u.tokens, ∃ x ∈ imp.stream.tokens ++ t.strays, ∃ l,
      imp.label? x = some l ∧ y = imp.leaf x := by
    rw [Piece.tokens_of_root? hroot.symm]
    exact hlabelled.tokens
  constructor
  · intro y hy
    obtain ⟨x, hx, l, -, rfl⟩ := htokens y hy
    obtain ⟨text, htext, hpair⟩ := (Option.any_eq_true _ _).1 (htexts x hx)
    exact ⟨text, htext, by simpa using hpair⟩
  · intro y hy
    obtain ⟨x, hx, l, hl, rfl⟩ := htokens y hy
    exact kind_leaf_java hnaming hl
  · intro k hk
    obtain rfl | hk := Piece.constructKinds_of_root? hroot.symm hk
    · exact Or.inl ⟨_, rfl⟩
    · obtain ⟨c, name, nodeType, rfl, hc⟩ := hlabelled.constructs k hk
      rw [hnaming] at hc
      obtain ⟨c, rfl⟩ | ⟨n, rfl, hn⟩ := Naming.kind_ruleLabel_java hc
      · exact Or.inl ⟨c, rfl⟩
      · exact Or.inr ⟨n, rfl, hn⟩

/-- A tree that is imported with the naming for Java from a source without surrogate pairs in its
texts can be stored. Under every limit that its document keeps to it comes back as a tree with the
same source text. The tree is the same just if no token keeps the name of a kind of token and no
name that is kept has a surrogate pair. If the tokens keep no such names but those of literals and
keywords, the canonical text is the same. -/
theorem build_round_trip (hnaming : imp.naming = .java) {t : ParseTree} {u : Tree} {p : Progress}
    (htexts : ∀ x ∈ imp.stream.tokens ++ t.strays, x.text.any fun text => !text.hasPair)
    (hbuild : imp.build t = (.ok (some u), p)) :
    ∃ bs v, Codec.standard.encode u = .ok bs ∧
      (∀ limit, u.toJson.FitsIn limit → Codec.standard.decode limit bs = .ok (some v)) ∧
      v.text = u.text ∧
      (v = u ↔ (∀ n ∈ u.tokenNames, TokenKind.ofName? n = none ∧ n.hasPair = false) ∧
        ∀ n ∈ u.constructNames, n.hasPair = false) ∧
      ((∀ n ∈ u.tokenNames, ∀ k, TokenKind.ofName? n = some k → k.isSpaced = false) →
        v.canonical = u.canonical) := by
  have hproper : u.IsProper := isProper_of_build hnaming htexts hbuild
  obtain ⟨bs, hencode, hdecode⟩ := Codec.standard_round_trip hproper.isComplete
  exact ⟨bs, u.normal, hencode, hdecode, hproper.text_normal, hproper.normal_eq_iff,
    fun hnames => canonical_eq_of_seen_eq (hproper.seen_normal hnames)⟩

/-- A grammar with a token that no kind is known for, read by an importer that wants hidden
tokens. -/
def banner : Importer :=
  { grammar := { ruleNames := ["compilationUnit"], tokenNames := ["SEMI", "EMOJI", "WS"] }
    naming := .java
    stream :=
      { tokens := [⟨1, some [.ofNat 0x1f600], 0⟩, ⟨2, some (Text.ofString " "), 1⟩,
          ⟨0, some (Text.ofString ";"), 0⟩] }
    wantsHidden := true }

/-- A name that is that of no kind is kept and comes back. -/
theorem build_round_trip_banner :
    banner.naming = .java ∧
      (∀ x ∈ banner.stream.tokens ++ ParseTree.strays
          (.rule 0 "CompilationUnitContext" [.terminal 0, .terminal 2]),
        x.text.any fun text => !text.hasPair) ∧
      ∃ u p bs, banner.build (.rule 0 "CompilationUnitContext" [.terminal 0, .terminal 2]) =
          (.ok (some u), p) ∧
        u.tokenNames = [Text.ofString "EMOJI"] ∧
        Codec.standard.encode u = .ok bs ∧
        ∀ limit, u.toJson.FitsIn limit → Codec.standard.decode limit bs = .ok (some u) := by
  have htexts : ∀ x ∈ banner.stream.tokens ++ ParseTree.strays
      (.rule 0 "CompilationUnitContext" [.terminal 0, .terminal 2]),
      x.text.any fun text => !text.hasPair := by
    decide +kernel
  have hbuild : banner.build (.rule 0 "CompilationUnitContext" [.terminal 0, .terminal 2]) =
      (.ok (some (.construct (some (.construct .javaFile)) [
        .token ⟨some (.plain "EMOJI"), some [.ofNat 0x1f600]⟩,
        .token ⟨some (.token (.trivia .whiteSpace)), some (Text.ofString " ")⟩,
        .token ⟨some (.token (.symbol .semicolon)), some (Text.ofString ";")⟩])),
      ⟨[1], ["EMOJI"]⟩) := by
    decide +kernel
  obtain ⟨bs, v, hencode, hdecode, -, hsame, -⟩ := build_round_trip rfl htexts hbuild
  obtain rfl := hsame.2 (by decide +kernel)
  exact ⟨rfl, htexts, _, _, bs, hbuild, by decide +kernel, hencode, hdecode⟩

/-- A grammar that calls tokens by the names of kinds, which their texts do not fit. -/
def kindNames : Importer :=
  { grammar := { ruleNames := [], tokenNames := ["FLOAT_LITERAL", "SEMICOLON"] }
    naming := .java
    stream :=
      { tokens := [⟨0, some (Text.ofString "1.0e1_0"), 0⟩, ⟨1, some (Text.ofString "#"), 0⟩] }
    wantsHidden := false }

/-- Both tokens come back labelled otherwise, and the second one with a line break after it in the
canonical text. -/
theorem build_round_trip_kind_names :
    kindNames.naming = .java ∧
      (∀ x ∈ kindNames.stream.tokens, x.text.any fun text => text.all (!·.isSurrogate)) ∧
      (∃ u v p bs, kindNames.build (.terminal 0) = (.ok (some u), p) ∧
        Codec.standard.encode u = .ok bs ∧
        (∀ limit, u.toJson.FitsIn limit → Codec.standard.decode limit bs = .ok (some v)) ∧
        v ≠ u) ∧
      ∃ u v p bs, kindNames.build (.terminal 1) = (.ok (some u), p) ∧
        Codec.standard.encode u = .ok bs ∧
        (∀ limit, u.toJson.FitsIn limit → Codec.standard.decode limit bs = .ok (some v)) ∧
        v ≠ u ∧ v.canonical ≠ u.canonical := by
  refine ⟨rfl, by decide +kernel, ?_, ?_⟩
  · obtain ⟨bs, hencode, hdecode⟩ := Codec.standard_round_trip
      (u := .token ⟨some (.plain "FLOAT_LITERAL"), some (Text.ofString "1.0e1_0")⟩) rfl
    exact ⟨_, _, ⟨[], ["FLOAT_LITERAL"]⟩, bs, by decide +kernel, hencode, hdecode,
      by decide +kernel⟩
  · obtain ⟨bs, hencode, hdecode⟩ := Codec.standard_round_trip
      (u := .token ⟨some (.plain "SEMICOLON"), some (Text.ofString "#")⟩) rfl
    exact ⟨_, _, ⟨[], ["SEMICOLON"]⟩, bs, by decide +kernel, hencode, hdecode,
      by decide +kernel, by decide +kernel⟩

end Importer

end JavaText
