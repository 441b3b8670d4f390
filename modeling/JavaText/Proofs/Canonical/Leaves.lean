import JavaText.Canonical.Draft

/-!
# The leaves of a tree and the text they are written to

`Tree.write` walks down a tree and hands a draft from one token to the next, together with what
stands around the token. Here the walk is flattened. A `Leaf` is a token with the kinds of all the
constructs above it, `Tree.leavesUnder` lists the leaves from left to right, and writing a tree is
writing its leaves one after another (`Tree.write_eq_foldl`). Leaves that do not show change
nothing, so the canonical text is a function of the visible leaves alone
(`Focus.canonical_eq_foldl`).
-/

namespace JavaText

/-- A token and the kinds of the constructs above it, the nearest first. -/
structure Leaf where
  /-- The token. -/
  token : Token
  /-- The kinds of the constructs above the token, the nearest first. -/
  above : List (Option Kind)
  deriving DecidableEq, Repr

namespace Leaf

/-- The kind of the token. -/
def kind (l : Leaf) : Option Kind :=
  l.token.kind

/-- The text of the token. -/
def text (l : Leaf) : Text :=
  l.token.rawText

/-- Whether the leaf shows in the canonical text. -/
def isVisible (l : Leaf) : Bool :=
  l.token.isVisible

/-- What the spacing of the token depends on besides its own kind. -/
def surroundings (l : Leaf) : Surroundings :=
  .ofAncestors l.above

/-- A leaf that is visible has a text. -/
theorem text_ne_nil {l : Leaf} (h : l.isVisible) : l.text ≠ [] := by
  intro hn
  simp only [text] at hn
  simp [isVisible, Token.isVisible, hn] at h

end Leaf

namespace Tree

mutual

/-- The leaves of a tree that stands below the given constructs, from left to right. -/
def leavesUnder (above : List (Option Kind)) : Tree → List Leaf
  | token t => [⟨t, above⟩]
  | construct k ts => leavesUnderAll (k :: above) ts

/-- The leaves of several trees that stand below the given constructs, from left to right. -/
def leavesUnderAll (above : List (Option Kind)) : List Tree → List Leaf
  | [] => []
  | t :: ts => leavesUnder above t ++ leavesUnderAll above ts

end

mutual

/-- The leaves of a tree hold its tokens, in order. -/
theorem map_token_leavesUnder (above : List (Option Kind)) :
    ∀ t : Tree, (t.leavesUnder above).map Leaf.token = t.tokens
  | token _ => rfl
  | construct k ts => map_token_leavesUnderAll (k :: above) ts

theorem map_token_leavesUnderAll (above : List (Option Kind)) :
    ∀ ts : List Tree, (leavesUnderAll above ts).map Leaf.token = tokensOf ts
  | [] => rfl
  | t :: ts => by
    rw [leavesUnderAll, tokensOf, List.map_append, map_token_leavesUnder above t,
      map_token_leavesUnderAll above ts]

end

end Tree

/-- The leaves of a subtree in its place, from left to right. -/
def Focus.leaves (f : Focus) : List Leaf :=
  f.tree.leavesUnder f.ancestors

/-! ## Writing leaf by leaf -/

namespace Draft

/-- Write one leaf. -/
def writeLeaf (d : Draft) (l : Leaf) : Draft :=
  d.writeToken l.surroundings l.token

theorem writeLeaf_of_not_isVisible {l : Leaf} (h : ¬l.isVisible) (d : Draft) :
    d.writeLeaf l = d := by
  rw [writeLeaf, writeToken]
  exact if_neg h

/-- Leaves that are not visible may be left out. -/
theorem foldl_writeLeaf_filter :
    ∀ (ls : List Leaf) (d : Draft),
      (ls.filter Leaf.isVisible).foldl writeLeaf d = ls.foldl writeLeaf d
  | [], _ => rfl
  | l :: ls, d => by
    by_cases h : l.isVisible
    · rw [List.filter_cons_of_pos h, List.foldl_cons, List.foldl_cons,
        foldl_writeLeaf_filter ls]
    · rw [List.filter_cons_of_neg h, List.foldl_cons, writeLeaf_of_not_isVisible h,
        foldl_writeLeaf_filter ls]

end Draft

namespace Tree

mutual

/-- Writing a tree is writing its leaves from left to right. -/
theorem write_eq_foldl (above : List (Option Kind)) :
    ∀ (t : Tree) (d : Draft),
      t.write (.ofAncestors above) d = (t.leavesUnder above).foldl Draft.writeLeaf d
  | token _, _ => rfl
  | construct k ts, d => writeAll_eq_foldl (k :: above) ts d

theorem writeAll_eq_foldl (above : List (Option Kind)) :
    ∀ (ts : List Tree) (d : Draft),
      writeAll (.ofAncestors above) ts d = (leavesUnderAll above ts).foldl Draft.writeLeaf d
  | [], _ => rfl
  | t :: ts, d => by
    rw [writeAll, leavesUnderAll, List.foldl_append, write_eq_foldl above t,
      writeAll_eq_foldl above ts]

end

end Tree

namespace Focus

/-- The leaves of a subtree that show in its canonical text. -/
def visibleLeaves (f : Focus) : List Leaf :=
  f.leaves.filter Leaf.isVisible

/-- The visible leaves hold the visible tokens. -/
theorem map_token_visibleLeaves (f : Focus) :
    f.visibleLeaves.map Leaf.token = f.tree.tokens.filter Token.isVisible := by
  rw [← f.tree.map_token_leavesUnder f.ancestors, List.filter_map]
  rfl

/-- The canonical text is what the visible leaves are written to. -/
theorem canonical_eq_foldl (f : Focus) :
    f.canonical = (f.visibleLeaves.foldl Draft.writeLeaf .empty).text := by
  rw [visibleLeaves, Draft.foldl_writeLeaf_filter, canonical, Tree.canonicalIn,
    Tree.write_eq_foldl]
  rfl

end Focus

end JavaText
