import JavaText.Proofs.Canonical.Leaves
import Mathlib.Logic.Relation

/-!
# Formatting does not change the canonical text

A tree is silent if none of its tokens shows: a comment, white space, a token with an empty text,
a construct without any other tokens. Silent trees can be put among the children of constructs and
taken out again, anywhere and any number of times, and no node that stays where it is changes its
canonical text.

A `Spot` is a node with everything around it: `Spot.root` is the whole tree and `Spot.focus` the
node in focus, and every node of every tree is of this form (`Spot.exists_of_at?`).
`Tree.Padded` puts one silent tree in somewhere below the root, `Spot.Padded` does so anywhere
around or below the node, and `Reformatted` is the equivalence it generates. A
node keeps its visible leaves under it, each below the same kinds (`Tree.Padded.visible_leaves`),
so it keeps its canonical text (`Reformatted.canonical_eq`). `Tree.erase` takes all silent
trees out, which is a reformatting too (`Tree.reformatted_erase`).
-/

namespace JavaText

open Relation

namespace Tree

/-! ## Silent trees -/

/-- Whether no token of a tree shows in the canonical text. -/
def isSilent (t : Tree) : Bool :=
  t.tokens.all fun t => !t.isVisible

theorem filter_leavesUnder_of_isSilent {t : Tree} (h : t.isSilent) (above : List (Option Kind)) :
    (t.leavesUnder above).filter Leaf.isVisible = [] := by
  rw [List.filter_eq_nil_iff]
  intro l hl
  have hmem : l.token ∈ t.tokens := by
    rw [← t.map_token_leavesUnder above]
    exact List.mem_map_of_mem hl
  have := List.all_eq_true.1 h l.token hmem
  simpa [Leaf.isVisible] using this

mutual

/-- The second tree is the first with one silent tree put in somewhere below the root. -/
inductive Padded : Tree → Tree → Prop
  | children {k : Option Kind} {ts us : List Tree} (h : PaddedAmong ts us) :
      Padded (.construct k ts) (.construct k us)

/-- The second trees are the first with one silent tree put in among them or below one of them. -/
inductive PaddedAmong : List Tree → List Tree → Prop
  | here {u : Tree} {ts : List Tree} (h : u.isSilent) : PaddedAmong ts (u :: ts)
  | inside {t u : Tree} {ts : List Tree} (h : Padded t u) : PaddedAmong (t :: ts) (u :: ts)
  | later {t : Tree} {ts us : List Tree} (h : PaddedAmong ts us) : PaddedAmong (t :: ts) (t :: us)

end

mutual

/-- A silent tree that is put in leaves the visible leaves and what is above them as they are. -/
theorem Padded.visible_leaves {t u : Tree} :
    Padded t u → ∀ above : List (Option Kind),
      (t.leavesUnder above).filter Leaf.isVisible = (u.leavesUnder above).filter Leaf.isVisible
  | .children h, above => h.visible_leaves (_ :: above)

theorem PaddedAmong.visible_leaves {ts us : List Tree} :
    PaddedAmong ts us → ∀ above : List (Option Kind),
      (leavesUnderAll above ts).filter Leaf.isVisible =
        (leavesUnderAll above us).filter Leaf.isVisible
  | .here h, above => by
    rw [leavesUnderAll, List.filter_append, filter_leavesUnder_of_isSilent h, List.nil_append]
  | .inside h, above => by
    rw [leavesUnderAll, leavesUnderAll, List.filter_append, List.filter_append,
      h.visible_leaves above]
  | .later h, above => by
    rw [leavesUnderAll, leavesUnderAll, List.filter_append, List.filter_append,
      h.visible_leaves above]

end

/-! ## Taking all silent trees out -/

mutual

/-- A tree without the silent trees below its root. -/
def erase : Tree → Tree
  | token t => token t
  | construct k ts => construct k (eraseAll ts)

/-- Several trees without the silent ones among them and below them. -/
def eraseAll : List Tree → List Tree
  | [] => []
  | t :: ts => if t.isSilent then eraseAll ts else erase t :: eraseAll ts

end

mutual

/-- A tree is built from what is left of it by putting silent trees in. -/
theorem padded_erase : ∀ t : Tree, ReflTransGen Padded t.erase t
  | token _ => .refl
  | construct k _ => (padded_eraseAll _).lift (construct k) fun _ _ h => .children h

theorem padded_eraseAll : ∀ ts : List Tree, ReflTransGen PaddedAmong (eraseAll ts) ts
  | [] => .refl
  | t :: ts => by
    rw [eraseAll]
    split
    case isTrue h => exact (padded_eraseAll ts).tail (.here h)
    case isFalse =>
      have head : ReflTransGen PaddedAmong (t.erase :: eraseAll ts) (t :: eraseAll ts) :=
        (padded_erase t).lift (· :: eraseAll ts) fun _ _ h => .inside h
      have tail : ReflTransGen PaddedAmong (t :: eraseAll ts) (t :: ts) :=
        (padded_eraseAll ts).lift (t :: ·) fun _ _ h => .later h
      exact head.trans tail

end

end Tree

/-! ## Nodes and what is around them -/

/-- A construct with the children on both sides of the one that is looked at. -/
structure Frame where
  /-- The kind of the construct. -/
  kind : Option Kind
  /-- The children before the one that is looked at. -/
  before : List Tree
  /-- The children after the one that is looked at. -/
  after : List Tree

/-- The construct with the given tree as the child that is looked at. -/
def Frame.fill (c : Frame) (t : Tree) : Tree :=
  .construct c.kind (c.before ++ t :: c.after)

/-- A child with the children before and after it makes up the tree again. -/
theorem Frame.fill_children {t u : Tree} {i : Nat} (h : t.children[i]? = some u) :
    Frame.fill ⟨t.kind, t.children.take i, t.children.drop (i + 1)⟩ u = t := by
  obtain ⟨hi, rfl⟩ := List.getElem?_eq_some_iff.1 h
  cases t with
  | token t => simp [Tree.children] at hi
  | construct k ts =>
    simp only [Tree.children] at hi ⊢
    simp [Frame.fill, Tree.kind]

/-- A node and the constructs around it, the nearest first. -/
structure Spot where
  /-- The constructs around the node, the nearest first. -/
  frames : List Frame
  /-- The node. -/
  tree : Tree

namespace Spot

/-- The whole tree that the node is in. -/
def root (a : Spot) : Tree :=
  a.frames.foldl (fun t c => c.fill t) a.tree

/-- The node in focus. -/
def focus (a : Spot) : Focus :=
  { path := (a.frames.map fun c => c.before.length).reverse
    ancestors := a.frames.map Frame.kind
    tree := a.tree }

/-- The child indices that lead from the root to the node. -/
def path (a : Spot) : List Int :=
  a.focus.path.map Int.ofNat

end Spot

namespace Focus

theorem descend?_append (q : List Int) :
    ∀ (p : List Int) (f : Focus), f.descend? (p ++ q) = (f.descend? p).bind (·.descend? q)
  | [], _ => rfl
  | i :: p, f => by
    rw [List.cons_append, descend?, descend?]
    cases f.child? i with
    | none => rfl
    | some g => exact descend?_append q p g

theorem child?_ofNat (f : Focus) (i : Nat) :
    f.child? i = (f.tree.children[i]?).map fun t =>
      { path := f.path ++ [i], ancestors := f.tree.kind :: f.ancestors, tree := t } := by
  have hi : ¬((i : Int) < 0) := by omega
  simp only [child?, position?, hi, if_false, Int.toNat_natCast]
  cases h : f.tree.children[i]? with
  | none => simp [h]
  | some t => simp [h]

theorem child?_eq_some {f g : Focus} {i : Int} (h : f.child? i = some g) :
    ∃ (j : Nat) (t : Tree), f.tree.children[j]? = some t ∧
      g = { path := f.path ++ [j], ancestors := f.tree.kind :: f.ancestors, tree := t } := by
  simp only [child?, Option.bind_eq_bind, Option.bind_eq_some_iff] at h
  obtain ⟨j, -, t, ht, hg⟩ := h
  exact ⟨j, t, ht, (Option.some.inj hg).symm⟩

end Focus

namespace Spot

theorem at?_fill : ∀ (frames : List Frame) (t : Tree),
    (root ⟨frames, t⟩).at? (path ⟨frames, t⟩) = some (focus ⟨frames, t⟩)
  | [], _ => rfl
  | c :: frames, t => by
    have ih := at?_fill frames (c.fill t)
    have hpath : path ⟨c :: frames, t⟩ = path ⟨frames, c.fill t⟩ ++ [(c.before.length : Int)] := by
      simp [path, focus]
    change Tree.at? (root ⟨frames, c.fill t⟩) _ = _
    rw [hpath, Tree.at?, Focus.descend?_append, ← Tree.at?, ih, Option.bind_some, Focus.descend?,
      Focus.child?_ofNat]
    simp [focus, Frame.fill, Tree.children, Tree.kind, Focus.descend?]

/-- The node of a spot is found at its path. -/
theorem at?_root (a : Spot) : a.root.at? a.path = some a.focus :=
  at?_fill a.frames a.tree

/-- The spot of the child at a position. -/
def child (a : Spot) (i : Nat) (t : Tree) : Spot :=
  ⟨⟨a.tree.kind, a.tree.children.take i, a.tree.children.drop (i + 1)⟩ :: a.frames, t⟩

theorem root_child {a : Spot} {i : Nat} {t : Tree} (h : a.tree.children[i]? = some t) :
    (a.child i t).root = a.root := by
  simp only [root, child, List.foldl_cons]
  rw [Frame.fill_children h]

theorem focus_child {a : Spot} {i : Nat} {t : Tree} (h : a.tree.children[i]? = some t) :
    (a.child i t).focus =
      { path := a.focus.path ++ [i]
        ancestors := a.tree.kind :: a.focus.ancestors
        tree := t } := by
  have hi : i < a.tree.children.length := (List.getElem?_eq_some_iff.1 h).1
  simp [child, focus, Nat.min_eq_left (Nat.le_of_lt hi)]

theorem exists_descend? : ∀ (p : List Int) (a : Spot) {f : Focus},
    a.focus.descend? p = some f → ∃ b : Spot, b.root = a.root ∧ b.focus = f
  | [], a, f, h => ⟨a, rfl, Option.some.inj h⟩
  | i :: p, a, f, h => by
    rw [Focus.descend?] at h
    cases hg : a.focus.child? i with
    | none => simp [hg] at h
    | some g =>
      rw [hg] at h
      obtain ⟨j, t, ht, rfl⟩ := Focus.child?_eq_some hg
      obtain ⟨b, hb, hf⟩ := exists_descend? p (a.child j t) (by rw [focus_child ht]; exact h)
      exact ⟨b, hb.trans (root_child ht), hf⟩

/-- Every node of every tree is the node of a spot. -/
theorem exists_of_at? {t : Tree} {p : List Int} {f : Focus} (h : t.at? p = some f) :
    ∃ a : Spot, a.root = t ∧ a.focus = f :=
  exists_descend? p ⟨[], t⟩ h

/-! ## Reformatting -/

/-- The second spot is the first with one silent tree put in below the node or beside it or beside
one of the constructs around it. -/
inductive Padded : Spot → Spot → Prop
  | inside {frames : List Frame} {t u : Tree} (h : t.Padded u) : Padded ⟨frames, t⟩ ⟨frames, u⟩
  | before {inner outer : List Frame} {k : Option Kind} {ts us after : List Tree} {t : Tree}
      (h : Tree.PaddedAmong ts us) :
      Padded ⟨inner ++ ⟨k, ts, after⟩ :: outer, t⟩ ⟨inner ++ ⟨k, us, after⟩ :: outer, t⟩
  | after {inner outer : List Frame} {k : Option Kind} {before ts us : List Tree} {t : Tree}
      (h : Tree.PaddedAmong ts us) :
      Padded ⟨inner ++ ⟨k, before, ts⟩ :: outer, t⟩ ⟨inner ++ ⟨k, before, us⟩ :: outer, t⟩

/-- One silent tree that is put in changes no visible leaf of the node. -/
theorem Padded.visibleLeaves_eq {a b : Spot} (h : Padded a b) :
    a.focus.visibleLeaves = b.focus.visibleLeaves := by
  cases h with
  | inside h => exact h.visible_leaves _
  | before h => simp [Focus.visibleLeaves, Focus.leaves, focus]
  | after h => simp [Focus.visibleLeaves, Focus.leaves, focus]

end Spot

/-- Two spots of the same node, up to silent trees that are put in or taken out anywhere. -/
def Reformatted : Spot → Spot → Prop :=
  EqvGen Spot.Padded

theorem Reformatted.canonical_eq {a b : Spot} (h : Reformatted a b) :
    a.focus.canonical = b.focus.canonical := by
  induction h with
  | rel a b h => rw [Focus.canonical_eq_foldl, Focus.canonical_eq_foldl, h.visibleLeaves_eq]
  | refl _ => rfl
  | symm _ _ _ ih => exact ih.symm
  | trans _ _ _ _ _ ih₁ ih₂ => exact ih₁.trans ih₂

/-- Taking all silent trees out is a reformatting. -/
theorem Tree.reformatted_erase (t : Tree) : Reformatted ⟨[], t.erase⟩ ⟨[], t⟩ := by
  have h : ReflTransGen Spot.Padded ⟨[], t.erase⟩ ⟨[], t⟩ :=
    t.padded_erase.lift (Spot.mk []) fun _ _ h => .inside h
  exact EqvGen.reflTransGen_le_eqvGen _ _ _ h

/-- However silent trees are put in or taken out around a node and below it, the node is found again
at its path and keeps its canonical text; and whole trees of which the same is left when all
silent trees are taken out have the same canonical text. -/
theorem formatting_invariance :
    (∀ (t : Tree) (p : List Int) (f : Focus), t.at? p = some f →
      ∃ a : Spot, a.root = t ∧ a.focus = f) ∧
    (∀ a b : Spot, Reformatted a b →
      a.root.at? a.path = some a.focus ∧ b.root.at? b.path = some b.focus ∧
        a.focus.canonical = b.focus.canonical) ∧
    (∀ t u : Tree, t.erase = u.erase → t.canonical = u.canonical) := by
  refine ⟨fun t p f h => Spot.exists_of_at? h, fun a b h => ?_, fun t u h => ?_⟩
  · exact ⟨a.at?_root, b.at?_root, h.canonical_eq⟩
  · have ht : t.erase.canonical = t.canonical := t.reformatted_erase.canonical_eq
    have hu : u.erase.canonical = u.canonical := u.reformatted_erase.canonical_eq
    rw [← ht, ← hu, h]

/-- A comment before the name of a method changes neither the text of the name nor that of the
method. -/
theorem formatting_invariance_comment :
    let name : Tree := .token ⟨some (.token .identifier), some (Text.ofString "f")⟩
    let comment : Tree :=
      .token ⟨some (.token (.trivia .blockComment)), some (Text.ofString "/* f */")⟩
    let plain : Spot := ⟨[⟨some (.construct .method), [], []⟩], name⟩
    let commented : Spot := ⟨[⟨some (.construct .method), [comment], []⟩], name⟩
    Reformatted plain commented ∧ plain.focus.canonical = commented.focus.canonical ∧
      plain.root.erase = commented.root.erase ∧
      plain.root.canonical = commented.root.canonical := by
  intro name comment plain commented
  have hpadded : Reformatted plain commented :=
    .rel _ _ (@Spot.Padded.before [] [] _ _ _ _ _ (.here (by decide)))
  have herase : plain.root.erase = commented.root.erase := by decide
  exact ⟨hpadded, (formatting_invariance.2.1 plain commented hpadded).2.2, herase,
    formatting_invariance.2.2 _ _ herase⟩

end JavaText
