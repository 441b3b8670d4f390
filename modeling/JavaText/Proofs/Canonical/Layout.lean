import JavaText.Proofs.Canonical.Leaves

/-!
# The canonical text leaf by leaf

The canonical text of a tree is one chunk for each visible leaf, in order: perhaps a space, the
text of the leaf, perhaps a line break. The rules that decide about the space and the line break
are stated on a leaf and all that is above it, as predicates of `Leaf`, and `NeedsSpace` looks at
nothing but the leaf, the chunk before it and whether the text so far is the word `return`.

`layout` lays leaves out by these rules. A draft `Draft.Holds` chunks if its pieces add up to them
and none of the pieces is empty; writing a visible leaf adds the chunk of the leaf
(`Draft.Holds.writeLeaf`). So the canonical text is the layout of the visible leaves
(`Focus.canonical_eq_layout`), and no leaf has two spaces before it, although the draft may add a
space for two reasons.
-/

namespace JavaText

/-! ## The rules for a leaf -/

namespace Leaf

variable (l : Leaf)

/-- The token is one of the given symbols. -/
def IsOneOf (symbols : List Symbol) : Prop :=
  ∃ s ∈ symbols, l.kind = some (.token (.symbol s))

/-- The token is an identifier. -/
def IsIdentifier : Prop :=
  l.kind = some (.token .identifier)

/-- The parent of the token is a construct of the given kind. -/
def IsUnder (c : ConstructKind) : Prop :=
  l.above[0]? = some (some (.construct c))

/-- The grandparent of the token is a construct of the given kind. -/
def IsTwoUnder (c : ConstructKind) : Prop :=
  l.above[1]? = some (some (.construct c))

/-- An annotation or an array initializer is somewhere above the token. -/
def IsAnnotated : Prop :=
  some (.construct .annotationUse) ∈ l.above ∨
    some (.construct .arrayInitializerExpression) ∈ l.above

instance : Decidable l.IsAnnotated :=
  inferInstanceAs (Decidable (_ ∨ _))

/-- A question mark or colon of a conditional expression. -/
def IsConditionalMark : Prop :=
  l.IsOneOf Spacing.conditionalSymbols ∧ l.IsUnder .conditionalExpression

/-- An operator between the operands of an infix expression. -/
def IsInfixOperator : Prop :=
  l.IsOneOf Spacing.infixOperators ∧
    (l.IsUnder .binaryExpression ∨ l.IsUnder .polyadicExpression)

/-- The name of a method in its declaration. -/
def IsMethodName : Prop :=
  l.IsIdentifier ∧ l.IsUnder .method

/-- The name of a local variable in its declaration. -/
def IsVariableName : Prop :=
  l.IsIdentifier ∧ l.IsUnder .localVariable ∧ l.IsTwoUnder .declarationStatement

/-- The token asks for a space after it. -/
def AsksSpaceAfter : Prop :=
  (¬l.IsOneOf Spacing.noSpaceAround ∧ ¬l.IsOneOf Spacing.noSpaceAfter) ∨ l.IsInfixOperator

/-- The token accepts a space that the one before it asks for. -/
def AcceptsSpaceBefore : Prop :=
  ¬l.IsOneOf Spacing.noSpaceAround ∧
    ¬l.IsOneOf (if l.IsAnnotated then Spacing.annotatedNoSpaceBefore else Spacing.noSpaceBefore)

/-- The token has a space before it whatever stands there. -/
def DemandsSpaceBefore : Prop :=
  l.IsConditionalMark ∨ l.IsVariableName ∨ l.IsMethodName ∨ l.IsInfixOperator

/-- The token ends the line. -/
def EndsLine : Prop :=
  l.IsOneOf (if l.IsAnnotated then Spacing.annotatedEndLineAfter else Spacing.endLineAfter)

/-! ## The rules agree with those of the writer -/

variable {l}

/-- The writer asks for symbols as the rules do. -/
theorem isOneOf_kind {symbols : List Symbol} :
    Kind.isOneOf symbols l.kind = true ↔ l.IsOneOf symbols := by
  unfold Kind.isOneOf IsOneOf
  split
  · next s h => simp [h]
  · next h =>
    simp only [Bool.false_eq_true, false_iff, not_exists, not_and]
    exact fun s _ => h s

theorem parent_surroundings {c : ConstructKind} :
    l.surroundings.parent = some (.construct c) ↔ l.IsUnder c := by
  obtain ⟨t, above⟩ := l
  rcases above with _ | ⟨k, above⟩ <;>
    simp [surroundings, IsUnder, Surroundings.ofAncestors, Surroundings.outermost,
      Surroundings.enter]

theorem grandparent_surroundings {c : ConstructKind} :
    l.surroundings.grandparent = some (.construct c) ↔ l.IsTwoUnder c := by
  obtain ⟨t, above⟩ := l
  rcases above with _ | ⟨k, _ | ⟨k', above⟩⟩ <;>
    simp [surroundings, IsTwoUnder, Surroundings.ofAncestors, Surroundings.outermost,
      Surroundings.enter]

/-- Being one of some constructs is being one of them. -/
theorem isOneOfConstructs_iff {cs : List ConstructKind} {k : Option Kind} :
    Kind.isOneOfConstructs cs k = true ↔ ∃ c ∈ cs, k = some (.construct c) := by
  unfold Kind.isOneOfConstructs
  split
  · simp
  · next h =>
    simp only [Bool.false_eq_true, false_iff, not_exists, not_and]
    exact fun c _ => h c

/-- The surroundings are annotated if some ancestor is an annotation or an array initializer. -/
theorem annotated_ofAncestors : ∀ above : List (Option Kind),
    (Surroundings.ofAncestors above).annotated = true ↔
      some (.construct .annotationUse) ∈ above ∨
        some (.construct .arrayInitializerExpression) ∈ above
  | [] => by simp [Surroundings.ofAncestors, Surroundings.outermost]
  | k :: above => by
    have ih := annotated_ofAncestors above
    simp only [Surroundings.ofAncestors, Surroundings.enter, Bool.or_eq_true, ih,
      isOneOfConstructs_iff, Spacing.annotatingConstructs, List.mem_cons]
    grind

/-- The writer knows what is annotated as the rules do. -/
theorem annotated_surroundings : l.surroundings.annotated = true ↔ l.IsAnnotated :=
  annotated_ofAncestors l.above

/-- It knows infix operators. -/
theorem isInfixOperator_iff :
    Spacing.isInfixOperator l.surroundings l.kind = true ↔ l.IsInfixOperator := by
  rw [Spacing.isInfixOperator, Bool.and_eq_true, isOneOf_kind, isOneOfConstructs_iff,
    IsInfixOperator, ← parent_surroundings, ← parent_surroundings]
  simp [Spacing.infixConstructs]

/-- It asks for a space after a leaf where the rules do. -/
theorem asksSpaceAfter_iff :
    Spacing.asksSpaceAfter l.surroundings l.kind = true ↔ l.AsksSpaceAfter := by
  simp only [Spacing.asksSpaceAfter, AsksSpaceAfter, Bool.or_eq_true, Bool.and_eq_true,
    Bool.not_eq_true', ← Bool.not_eq_true, isOneOf_kind, isInfixOperator_iff]

/-- It accepts a space before a leaf where the rules do. -/
theorem acceptsSpaceBefore_iff :
    Spacing.acceptsSpaceBefore l.surroundings l.kind = true ↔ l.AcceptsSpaceBefore := by
  simp only [Spacing.acceptsSpaceBefore, AcceptsSpaceBefore, Bool.and_eq_true, Bool.not_eq_true',
    ← Bool.not_eq_true, isOneOf_kind, annotated_surroundings]

/-- It demands one where the rules do. -/
theorem demandsSpaceBefore_iff :
    Spacing.demandsSpaceBefore l.surroundings l.kind = true ↔ l.DemandsSpaceBefore := by
  simp only [Spacing.demandsSpaceBefore, DemandsSpaceBefore, Bool.or_eq_true, isInfixOperator_iff,
    Spacing.isConditionalMark, Spacing.isVariableName, Spacing.isMethodName, Bool.and_eq_true,
    beq_iff_eq, isOneOf_kind, parent_surroundings, grandparent_surroundings, IsConditionalMark,
    IsVariableName, IsMethodName, IsIdentifier, and_assoc, or_assoc]

/-- It ends a line where the rules do. -/
theorem endsLine_iff : Spacing.endsLine l.surroundings l.kind = true ↔ l.EndsLine := by
  simp only [Spacing.endsLine, EndsLine, isOneOf_kind, annotated_surroundings]

instance : Decidable l.AsksSpaceAfter :=
  decidable_of_iff _ asksSpaceAfter_iff

instance : Decidable l.AcceptsSpaceBefore :=
  decidable_of_iff _ acceptsSpaceBefore_iff

instance : Decidable l.DemandsSpaceBefore :=
  decidable_of_iff _ demandsSpaceBefore_iff

instance : Decidable l.EndsLine :=
  decidable_of_iff _ endsLine_iff

end Leaf

/-! ## Chunks -/

/-- A leaf with what is written before and after its text. -/
structure Chunk where
  /-- What is written before the text of the leaf. -/
  before : Text
  /-- The leaf. -/
  leaf : Leaf
  /-- What is written after the text of the leaf. -/
  after : Text
  deriving DecidableEq, Repr

/-- The text of a chunk. -/
def Chunk.text (c : Chunk) : Text :=
  c.before ++ c.leaf.text ++ c.after

/-- Whether a space stands before a leaf that follows the given chunks: the leaf before it asks
for a space and the leaf accepts it, or the leaf demands a space, or all that is written is the
word `return` and the leaf is no semicolon. -/
def NeedsSpace (earlier : List Chunk) (l : Leaf) : Prop :=
  (∃ c ∈ earlier.getLast?, c.leaf.AsksSpaceAfter ∧ l.AcceptsSpaceBefore) ∨
    l.DemandsSpaceBefore ∨
    (earlier.flatMap Chunk.text = Text.ofString "return" ∧ l.text ≠ Text.ofString ";")

instance (earlier : List Chunk) (l : Leaf) : Decidable (NeedsSpace earlier l) :=
  inferInstanceAs (Decidable (_ ∨ _))

/-- The chunk of a leaf that follows the given chunks. -/
def Chunk.following (earlier : List Chunk) (l : Leaf) : Chunk :=
  { before := if NeedsSpace earlier l then Draft.space else []
    leaf := l
    after := if l.EndsLine then Draft.lineBreak else [] }

/-- The chunks of leaves that follow the given chunks. -/
def layout (earlier : List Chunk) : List Leaf → List Chunk
  | [] => []
  | l :: ls =>
    Chunk.following earlier l :: layout (earlier ++ [Chunk.following earlier l]) ls

/-- The chunks of a layout are those of the leaves, in order. -/
theorem map_leaf_layout : ∀ (ls : List Leaf) (earlier : List Chunk),
    (layout earlier ls).map Chunk.leaf = ls
  | [], _ => rfl
  | l :: ls, earlier => by
    rw [layout, List.map_cons, map_leaf_layout ls]
    rfl

/-- Every chunk of a layout is the one that its leaf has after the chunks before it. -/
theorem eq_following_of_layout : ∀ (ls : List Leaf) (earlier before after : List Chunk) (c : Chunk),
    layout earlier ls = before ++ c :: after → c = Chunk.following (earlier ++ before) c.leaf
  | [], _, before, after, c, h => by
    simp [layout] at h
  | l :: ls, earlier, [], after, c, h => by
    rw [layout, List.nil_append, List.cons.injEq] at h
    obtain ⟨rfl, -⟩ := h
    rw [List.append_nil]
    rfl
  | l :: ls, earlier, b :: before, after, c, h => by
    rw [layout, List.cons_append, List.cons.injEq] at h
    obtain ⟨rfl, h⟩ := h
    have ih := eq_following_of_layout ls _ before after c h
    rwa [List.append_assoc, List.singleton_append] at ih

/-! ## Drafts and the chunks they hold -/

namespace Draft

theorem length_le_length_flatten : ∀ {ps : List Text}, (∀ p ∈ ps, p ≠ []) →
    ps.length ≤ ps.flatten.length
  | [], _ => Nat.le_refl _
  | p :: ps, h => by
    have hp : 0 < p.length := List.length_pos_iff.2 (h p (by simp))
    have ih := length_le_length_flatten fun q hq => h q (List.mem_cons_of_mem p hq)
    simp only [List.flatten_cons, List.length_append, List.length_cons]
    omega

/-- Where no piece is empty, the pieces spell a text if they add up to it. -/
theorem spells_iff {pieces : Array Text} (h : ∀ p ∈ pieces, p ≠ []) (t : Text) :
    spells pieces t = true ↔ pieces.toList.flatten = t := by
  simp only [spells, Bool.and_eq_true, decide_eq_true_eq, beq_iff_eq, and_iff_right_iff_imp]
  rintro rfl
  exact length_le_length_flatten fun p hp => h p (Array.mem_toList_iff.1 hp)

/-- The pieces of a draft add up to chunks, none of them is empty, and the draft asks for a space if
the last leaf does. -/
structure Holds (d : Draft) (cs : List Chunk) : Prop where
  text_eq : d.text = cs.flatMap Chunk.text
  asks_iff : d.asksSpace = true ↔ ∃ c ∈ cs.getLast?, c.leaf.AsksSpaceAfter
  ne_nil : ∀ p ∈ d.pieces, p ≠ []

/-- An empty draft holds no chunks. -/
theorem holds_empty : Holds .empty [] where
  text_eq := rfl
  asks_iff := by simp [empty]
  ne_nil := by simp [empty]

/-- The pieces of a draft with the space, if any, that the leaf before and the leaf itself give. -/
def separated (d : Draft) (l : Leaf) : Array Text :=
  if (d.asksSpace && Spacing.acceptsSpaceBefore l.surroundings l.kind)
      || Spacing.demandsSpaceBefore l.surroundings l.kind
  then d.pieces.push space else d.pieces

/-- The pieces of a draft with all that is written before a leaf. -/
def spaced (d : Draft) (l : Leaf) : Array Text :=
  if l.text != Text.ofString ";" && spells (d.separated l) (Text.ofString "return")
  then (d.separated l).push space else d.separated l

/-- What writing a leaf that is visible adds to a draft. -/
theorem writeLeaf_of_isVisible {l : Leaf} (h : l.isVisible) (d : Draft) :
    d.writeLeaf l =
      { pieces := if Spacing.endsLine l.surroundings l.kind
          then ((d.spaced l).push l.text).push lineBreak else (d.spaced l).push l.text
        asksSpace := Spacing.asksSpaceAfter l.surroundings l.kind } := by
  rw [writeLeaf, writeToken]
  exact if_pos h

theorem append_space_ne_return (t : Text) : t ++ space ≠ Text.ofString "return" := by
  intro h
  have hlast := congrArg List.getLast? h
  rw [List.getLast?_append, show space.getLast? = some (CodePoint.ofChar ' ') from rfl,
    Option.some_or] at hlast
  exact absurd hlast (by decide)

namespace Holds

variable {d : Draft} {cs : List Chunk}

/-- A draft needs a space before a leaf where the layout of its chunks does. -/
theorem needsSpace_iff (hd : d.Holds cs) (l : Leaf) :
    NeedsSpace cs l ↔
      ((d.asksSpace && Spacing.acceptsSpaceBefore l.surroundings l.kind)
        || Spacing.demandsSpaceBefore l.surroundings l.kind) = true ∨
      (d.text = Text.ofString "return" ∧ l.text ≠ Text.ofString ";") := by
  rw [NeedsSpace, hd.text_eq, Bool.or_eq_true, Bool.and_eq_true, hd.asks_iff,
    Leaf.acceptsSpaceBefore_iff, Leaf.demandsSpaceBefore_iff]
  grind

/-- Two rules may add a space before a leaf, but never both: where the first one does, what is
written ends in a space and is not the word `return`. -/
theorem spaced_eq (hd : d.Holds cs) (l : Leaf) :
    d.spaced l = if NeedsSpace cs l then d.pieces.push space else d.pieces := by
  have hspace : space ≠ [] := by decide
  rw [spaced, separated]
  simp only [hd.needsSpace_iff l]
  split
  · next h =>
    have hpush : ∀ p ∈ d.pieces.push space, p ≠ [] := by
      simpa [or_imp, forall_and, hspace] using hd.ne_nil
    have hspells : ¬(spells (d.pieces.push space) (Text.ofString "return") = true) := by
      rw [spells_iff hpush]
      simpa using append_space_ne_return d.pieces.toList.flatten
    rw [if_neg (by simp [hspells]), if_pos (Or.inl h)]
  · next h =>
    have hspells : spells d.pieces (Text.ofString "return") = true ↔ d.text = _ :=
      spells_iff hd.ne_nil _
    simp only [Bool.and_eq_true, hspells, bne_iff_ne, and_comm, h, false_or, Bool.false_eq_true]

/-- Writing a visible leaf adds the chunk that it has after the chunks so far. -/
theorem writeLeaf (hd : d.Holds cs) {l : Leaf} (hl : l.isVisible) :
    (d.writeLeaf l).Holds (cs ++ [Chunk.following cs l]) := by
  have htext : d.pieces.toList.flatten = cs.flatMap Chunk.text := hd.text_eq
  have hspace : space ≠ [] := by decide
  have hbreak : lineBreak ≠ [] := by decide
  have hword := Leaf.text_ne_nil hl
  rw [writeLeaf_of_isVisible hl, hd.spaced_eq l]
  simp only [Leaf.endsLine_iff]
  constructor
  · by_cases h₁ : NeedsSpace cs l <;> by_cases h₂ : l.EndsLine <;>
      simp [text, Chunk.following, Chunk.text, h₁, h₂, htext]
  · simp [Chunk.following, Leaf.asksSpaceAfter_iff]
  · by_cases h₁ : NeedsSpace cs l <;> by_cases h₂ : l.EndsLine <;>
      simpa [h₁, h₂, or_imp, forall_and, hspace, hbreak, hword] using hd.ne_nil

/-- Writing visible leaves adds their layout. -/
theorem foldl_writeLeaf : ∀ (ls : List Leaf) {d : Draft} {cs : List Chunk}, d.Holds cs →
    (∀ l ∈ ls, l.isVisible) → (ls.foldl Draft.writeLeaf d).Holds (cs ++ layout cs ls)
  | [], d, cs, hd, _ => by
    rw [layout, List.append_nil]
    exact hd
  | l :: ls, d, cs, hd, h => by
    have hstep := hd.writeLeaf (h l (by simp))
    have ih := foldl_writeLeaf ls hstep fun m hm => h m (List.mem_cons_of_mem l hm)
    rwa [List.append_assoc, List.singleton_append] at ih

end Holds

end Draft

namespace Focus

/-- The chunks of a subtree in its place. -/
def layout (f : Focus) : List Chunk :=
  JavaText.layout [] f.visibleLeaves

/-- The canonical text is the layout of the visible leaves. -/
theorem canonical_eq_layout (f : Focus) : f.canonical = f.layout.flatMap Chunk.text := by
  have h := Draft.holds_empty.foldl_writeLeaf f.visibleLeaves fun l hl => (List.mem_filter.1 hl).2
  rw [canonical_eq_foldl, h.text_eq, List.nil_append]
  rfl

/-- The canonical text is a concatenation of chunks, one for each token that shows, in the order of
the tokens. A chunk has one space or nothing before the text of its token and one line break or
nothing after it, as the rules for the leaf and the chunks before it say. -/
theorem canonical_flat (f : Focus) :
    ∃ chunks : List Chunk,
      f.canonical = chunks.flatMap (fun c => c.before ++ c.leaf.text ++ c.after) ∧
      chunks.map Chunk.leaf = f.leaves.filter Leaf.isVisible ∧
      chunks.map (fun c => c.leaf.token) = f.tree.tokens.filter Token.isVisible ∧
      ∀ (earlier later : List Chunk) (c : Chunk), chunks = earlier ++ c :: later →
        c.before = (if NeedsSpace earlier c.leaf then Draft.space else []) ∧
        c.after = (if c.leaf.EndsLine then Draft.lineBreak else []) := by
  have hleaf : f.layout.map Chunk.leaf = f.visibleLeaves := map_leaf_layout _ _
  refine ⟨f.layout, f.canonical_eq_layout, hleaf, ?_, fun earlier later c h => ?_⟩
  · rw [← map_token_visibleLeaves, ← hleaf, List.map_map]
    rfl
  · have hc := eq_following_of_layout _ _ _ _ _ h
    rw [List.nil_append] at hc
    exact ⟨congrArg Chunk.before hc, congrArg Chunk.after hc⟩

end Focus

end JavaText
