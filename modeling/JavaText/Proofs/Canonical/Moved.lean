import JavaText.Proofs.Canonical.Layout
import JavaText.Proofs.Store.Shape
import JavaText.Proofs.Store.Surgery

/-!
# Moving a node does not change its canonical text

What is around a node bears on its canonical text in three ways only: whether an annotation or an
array initializer is above it, the kind of its parent, and the kind of its grandparent. The last two
matter to the node itself if it is a token, and to the tokens that are its children if it is a local
variable. The text of any other construct depends on the first alone
(`Shape.write_eq_of_annotated_eq`): its tokens have their parents within it, and only the name of a
local variable looks any further.

So a piece of code that is moved keeps its text, both as linked nodes and as a subtree in its place.
-/

namespace JavaText

open Relation

/-! ## Places that a token does not tell apart -/

/-- A token whose parent is no local variable does not look at its grandparent. -/
theorem Draft.writeToken_eq {p q : Surroundings} (hparent : p.parent = q.parent)
    (hannotated : p.annotated = q.annotated)
    (hlocal : p.parent ≠ some (.construct .localVariable)) (t : Token) (d : Draft) :
    d.writeToken p t = d.writeToken q t := by
  have hname : ∀ kind,
      Spacing.isVariableName p kind = false ∧ Spacing.isVariableName q kind = false := by
    intro kind
    have hlocal' : q.parent ≠ some (.construct .localVariable) := hparent ▸ hlocal
    simp [Spacing.isVariableName, hlocal, hlocal']
  simp only [writeToken, Spacing.acceptsSpaceBefore, Spacing.demandsSpaceBefore, Spacing.endsLine,
    Spacing.asksSpaceAfter, Spacing.isConditionalMark, Spacing.isMethodName,
    Spacing.isInfixOperator, hname, hparent, hannotated]

/-- Nothing is written for a token without a text. -/
theorem Draft.writeToken_none (p : Surroundings) (kind : Option Kind) (d : Draft) :
    d.writeToken p { kind, text := none } = d := by
  simp [writeToken, Token.isVisible, Token.rawText]

namespace Shape

variable {p q : Surroundings}

theorem write_eq_of_parent_eq (hparent : p.parent = q.parent)
    (hannotated : p.annotated = q.annotated)
    (hlocal : p.parent ≠ some (.construct .localVariable)) (shape : Shape) (d : Draft) :
    shape.write p d = shape.write q d := by
  obtain ⟨⟨role, kind, text⟩, shapes⟩ := shape
  have henter : p.enter kind = q.enter kind := by
    simp [Surroundings.enter, hparent, hannotated]
  rw [write, write, henter, Draft.writeToken_eq hparent hannotated hlocal]

theorem writeAll_eq_of_parent_eq (hparent : p.parent = q.parent)
    (hannotated : p.annotated = q.annotated)
    (hlocal : p.parent ≠ some (.construct .localVariable)) (shapes : List Shape) (d : Draft) :
    writeAll p shapes d = writeAll q shapes d := by
  induction shapes generalizing d with
  | nil => rfl
  | cons shape shapes ih =>
    rw [writeAll, writeAll, write_eq_of_parent_eq hparent hannotated hlocal, ih]

/-- A construct other than a local variable looks no further than for what annotates it. -/
theorem write_eq_of_annotated_eq (hannotated : p.annotated = q.annotated) {role : Role}
    {kind : Option Kind} (hkind : kind ≠ some (.construct .localVariable)) (shapes : List Shape)
    (d : Draft) : (node (role, kind, none) shapes).write p d =
      (node (role, kind, none) shapes).write q d := by
  have hbelow := @writeAll_eq_of_parent_eq (p.enter kind) (q.enter kind) rfl
    (by simp [Surroundings.enter, hannotated]) hkind shapes d
  rw [write, write, Draft.writeToken_none, Draft.writeToken_none, hbelow]

end Shape

/-! ## The shape of a tree -/

namespace Tree

mutual

/-- The shape of a tree. -/
def shape : Tree → Shape
  | token t => .node (.token, t.kind, t.text) []
  | construct kind ts => .node (.construct, kind, none) (shapes ts)

/-- The shapes of several trees. -/
def shapes : List Tree → List Shape
  | [] => []
  | t :: ts => shape t :: shapes ts

end

theorem isEmpty_shapes (ts : List Tree) : (shapes ts).isEmpty = ts.isEmpty := by
  cases ts <;> rfl

mutual

theorem write_shape (p : Surroundings) : ∀ (t : Tree) (d : Draft), t.shape.write p d = t.write p d
  | token _, _ => rfl
  | construct kind ts, d => by
    rw [shape, Shape.write, write, isEmpty_shapes, Draft.writeToken_none,
      writeAll_shapes (p.enter kind) ts d]
    cases ts <;> rfl

theorem writeAll_shapes (p : Surroundings) : ∀ (ts : List Tree) (d : Draft),
    Shape.writeAll p (shapes ts) d = writeAll p ts d
  | [], _ => rfl
  | t :: ts, d => by
    rw [shapes, Shape.writeAll, writeAll, write_shape p t d, writeAll_shapes p ts]

end

end Tree

/-- The canonical text of a subtree is that of its shape in its place. -/
theorem Focus.canonical_eq_shape (f : Focus) :
    f.canonical = f.tree.shape.canonicalIn (.ofAncestors f.ancestors) := by
  rw [canonical, Tree.canonicalIn, Shape.canonicalIn, Tree.write_shape]

/-! ## What is above a node -/

/-- An annotation or an array initializer is above a node. -/
def Store.IsAnnotated (s : Store) (r : Ref) : Prop :=
  ∃ a, TransGen s.Up r a ∧ (s.kind? a = some (.construct .annotationUse) ∨
    s.kind? a = some (.construct .arrayInitializerExpression))

theorem Store.IsForest.annotated_surroundings {s : Store} (h : s.IsForest) {r : Ref} :
    (s.surroundings r).annotated = true ↔ s.IsAnnotated r := by
  simp [surroundings, IsAnnotated, h.mem_ancestors, Leaf.isOneOfConstructs_iff,
    Spacing.annotatingConstructs]

/-- An annotation or an array initializer is above a subtree. -/
def Focus.IsAnnotated (f : Focus) : Prop :=
  some (.construct .annotationUse) ∈ f.ancestors ∨
    some (.construct .arrayInitializerExpression) ∈ f.ancestors

namespace Surroundings

theorem parent_ofAncestors (above : List (Option Kind)) :
    (ofAncestors above).parent = above[0]?.join := by
  cases above <;> rfl

theorem grandparent_ofAncestors (above : List (Option Kind)) :
    (ofAncestors above).grandparent = above[1]?.join := by
  rcases above with _ | ⟨k, above⟩
  · rfl
  · exact (parent_ofAncestors above).trans (by simp)

end Surroundings

/-! ## Moving -/

/-- A shape has one canonical text in all places that agree on what annotates it and, unless it is a
construct other than a local variable, on the kinds of parent and grandparent. -/
theorem Shape.canonicalIn_eq {p q : Surroundings} {role : Role} {kind : Option Kind}
    {text : Option Text} {shapes : List Shape} (hannotated : p.annotated = q.annotated)
    (hplace : (text = none ∧ kind ≠ some (.construct .localVariable)) ∨
      (p.parent = q.parent ∧ p.grandparent = q.grandparent)) :
    (node (role, kind, text) shapes).canonicalIn p =
      (node (role, kind, text) shapes).canonicalIn q := by
  rw [canonicalIn, canonicalIn]
  rcases hplace with ⟨rfl, hkind⟩ | ⟨hparent, hgrandparent⟩
  · rw [write_eq_of_annotated_eq hannotated hkind]
  · have heq : p = q := by
      cases p
      cases q
      simp_all
    rw [heq]

/-- Two nodes of equal trees, wherever they stand, have the same canonical text if both or none of
them is below an annotation or an array initializer and, unless they are constructs other than local
variables, their parents and their grandparents are of the same kinds. This holds of linked nodes in
forests, where the text is there, and of subtrees in their places. -/
theorem canonical_moved :
    (∀ (s s' : Store) (r r' : Ref) (shape : Shape), s.IsForest → s'.IsForest →
      s.forms shape r → s'.forms shape r' → (s.IsAnnotated r ↔ s'.IsAnnotated r') →
      ((s.role r = .construct ∧ s.text? r = none ∧
          s.kind? r ≠ some (.construct .localVariable)) ∨
        ((s.parent? r).bind s.kind? = (s'.parent? r').bind s'.kind? ∧
          ((s.parent? r).bind s.parent?).bind s.kind? =
            ((s'.parent? r').bind s'.parent?).bind s'.kind?)) →
      ∃ t, s.canonical r = .ok t ∧ s'.canonical r' = .ok t) ∧
    (∀ (t t' : Tree) (i i' : List Int) (f f' : Focus), t.at? i = some f → t'.at? i' = some f' →
      f.tree = f'.tree → (f.IsAnnotated ↔ f'.IsAnnotated) →
      ((∃ kind ts, f.tree = .construct kind ts ∧ kind ≠ some (.construct .localVariable)) ∨
        (f.ancestors[0]?.join = f'.ancestors[0]?.join ∧
          f.ancestors[1]?.join = f'.ancestors[1]?.join)) →
      f.canonical = f'.canonical) := by
  refine ⟨fun s s' r r' shape h h' hr hr' hannotated hplace => ?_,
    fun _ _ _ _ f f' _ _ htree hannotated hplace => ?_⟩
  · rw [h.canonical_eq hr, h'.canonical_eq hr']
    obtain ⟨label, shapes⟩ := shape
    obtain ⟨rfl, -⟩ := Store.forms_node.1 hr
    refine ⟨_, rfl, congrArg _ (Shape.canonicalIn_eq ?_ ?_).symm⟩
    · rw [Bool.eq_iff_iff, h.annotated_surroundings, h'.annotated_surroundings, hannotated]
    · exact hplace.imp_left And.right
  · rw [f.canonical_eq_shape, f'.canonical_eq_shape, ← htree]
    have hsame : (Surroundings.ofAncestors f.ancestors).annotated =
        (Surroundings.ofAncestors f'.ancestors).annotated := by
      rw [Bool.eq_iff_iff, Leaf.annotated_ofAncestors, Leaf.annotated_ofAncestors]
      exact hannotated
    simp only [← Surroundings.parent_ofAncestors, ← Surroundings.grandparent_ofAncestors] at hplace
    cases hf : f.tree with
    | token t =>
      refine Shape.canonicalIn_eq hsame (hplace.imp_left ?_)
      rintro ⟨kind, ts, heq, -⟩
      cases hf.symm.trans heq
    | construct kind ts =>
      refine Shape.canonicalIn_eq hsame (hplace.imp_left ?_)
      rintro ⟨kind', ts', heq, hkind⟩
      cases hf.symm.trans heq
      exact ⟨rfl, hkind⟩

/-- A method that is put into a file keeps its text, and so does one that is found in a class. -/
theorem canonical_moved_method :
    (∃ s s' : Store, s.apply (.insert 2 0 (some 0)) = (s', .ok ()) ∧
      s.parent? 0 = none ∧ s'.parent? 0 = some 2 ∧
      ∃ t, s.canonical 0 = .ok t ∧ s'.canonical 0 = .ok t) ∧
    (let name : Tree := .token ⟨some (.token .identifier), some "f"⟩
     let method : Tree := .construct (some (.construct .method)) [name]
     let file : Tree := .construct (some (.construct .javaFile))
       [.construct (some (.construct .classDeclaration)) [name, method]]
     ∃ f, file.at? [0, -1] = some f ∧ f.tree = method ∧ f.canonical = method.canonical) := by
  obtain ⟨hstored, hfocused⟩ := canonical_moved
  refine ⟨?_, ?_⟩
  · obtain ⟨s, hs, hheap, hforest⟩ := Store.isForest_planting
    obtain rfl : (Store.empty.applyAll Store.planting).1 = s := congrArg Prod.fst hs
    have hcall : Surgery.IsCall (Store.empty.applyAll Store.planting).1.size
        (.insert 2 0 (some 0)) := ⟨by decide, by decide⟩
    obtain ⟨hok, hiff⟩ := (Store.effect_apply hheap hcall).isForest_iff hheap hforest hcall (by
      rintro c ⟨_, _, h, hindex⟩
      cases h
      cases hindex)
    have hforest' := hiff.2 (Store.attachesFree_planting 0)
    refine ⟨_, _, Prod.ext rfl hok, by decide, by decide, ?_⟩
    refine hstored _ _ 0 0 (.node (.construct, some (.construct .method), none)
      [.node (.token, some (.token .identifier), some "f") []]) hforest hforest' (by decide)
      (by decide) ?_ (.inl ⟨by decide, by decide, by decide⟩)
    rw [← hforest.annotated_surroundings, ← hforest'.annotated_surroundings]
    decide
  · intro name method file
    refine ⟨_, rfl, rfl, ?_⟩
    refine hfocused file method [0, -1] [] _ _ rfl rfl rfl ?_ (.inl ⟨_, _, rfl, by decide⟩)
    simp [Focus.IsAnnotated, Focus.whole, Tree.kind, file]

end JavaText
