import JavaText.Lambda
import JavaText.Proofs.Store.Surgery
import JavaText.Proofs.Store.Trivia

/-!
# Lambda expressions do not show trivia

A lambda is taken apart by walks over the children of the lambda, of its lists of parameters, of
each parameter and of the block that is its body. Every one of these walks passes over a leaf of
trivia, and what it asks of any other node has the same answer in a store with other leaves of
trivia. So two aligned lists of children are walked over with the same result, one lemma for each
walk, and the view of a lambda is the same in both stores. Its nodes keep their canonical texts too,
so all that is shown of the lambda stays as it is (`LambdaView.of_respaced`).
-/

namespace JavaText

namespace LambdaView

/-! ## Walks pass over trivia -/

section Skip

variable {ν : Type} {access : NodeAccess ν} {n : ν} {t : Trivia} (ns : List ν)
  (hkind : access.kind n = .ok (some (.token (.trivia t))))

include hkind

/-- Trivia is no identifier. -/
theorem identifierTexts_skip :
    identifierTexts access (n :: ns) = identifierTexts access ns := by
  rw [identifierTexts, hkind]
  rfl

/-- Trivia is no type. -/
theorem hasType_skip : hasType access (n :: ns) = hasType access ns := by
  rw [hasType, hkind]
  rfl

/-- Trivia adds no parameter. -/
theorem addParameters_skip (hrole : access.role n = .token) (view : LambdaView ν) :
    addParameters access (n :: ns) view = addParameters access ns view := by
  rw [addParameters, addParameter, if_pos hrole, hkind]
  rfl

/-- Trivia is no part of a lambda. -/
theorem takeApart_skip (afterArrow : Bool) (view : LambdaView ν) :
    takeApart access afterArrow (n :: ns) view = takeApart access afterArrow ns view := by
  rw [takeApart, hkind]
  cases afterArrow <;> rfl

omit hkind in
theorem constructs_skip (hrole : access.role n = .token) :
    constructs access (n :: ns) = constructs access ns := by
  rw [constructs, List.filter_cons_of_neg (by simp [hrole]), constructs]

end Skip

/-! ## Walks over aligned lists -/

open Store

variable {s s' : Store}

theorem access_of_isTriviaLeaf {s : Store} {c : Ref} (hc : s.isTriviaLeaf c) :
    s.access.role c = .token ∧ ∃ t, s.access.kind c = .ok (some (.token (.trivia t))) := by
  obtain ⟨hrole, ⟨t, hkind⟩, -⟩ := isTriviaLeaf_iff.1 hc
  refine ⟨hrole, t, ?_⟩
  obtain ⟨n, hn, hslot⟩ := Option.bind_eq_some_iff.1 hkind
  have hread : n.kind.read = .ok (some (.token (.trivia t))) := by
    cases hk : n.kind <;> simp_all [Slot.get?, Slot.read]
  simp only [access, hn, hread]

/-- Aligned lists have the same identifiers. -/
theorem identifierTexts_aligned {cs cs' : List Ref} (h : Aligned s s' cs cs') :
    identifierTexts s'.access cs' = identifierTexts s.access cs := by
  induction h with
  | nil => rfl
  | left hc _ ih =>
    obtain ⟨-, t, hkind⟩ := access_of_isTriviaLeaf hc
    rw [ih, identifierTexts_skip _ hkind]
  | right hc _ ih =>
    obtain ⟨-, t, hkind⟩ := access_of_isTriviaLeaf hc
    rw [identifierTexts_skip _ hkind, ih]
  | both hc _ ih =>
    rw [identifierTexts, identifierTexts, hc.access_kind_eq, hc.access_text_eq, ih]

/-- One of them has a type if the other has. -/
theorem hasType_aligned {cs cs' : List Ref} (h : Aligned s s' cs cs') :
    hasType s'.access cs' = hasType s.access cs := by
  induction h with
  | nil => rfl
  | left hc _ ih =>
    obtain ⟨-, t, hkind⟩ := access_of_isTriviaLeaf hc
    rw [ih, hasType_skip _ hkind]
  | right hc _ ih =>
    obtain ⟨-, t, hkind⟩ := access_of_isTriviaLeaf hc
    rw [hasType_skip _ hkind, ih]
  | both hc _ ih => rw [hasType, hasType, hc.access_kind_eq, ih]

/-- They have the same constructs. -/
theorem constructs_aligned {cs cs' : List Ref} (h : Aligned s s' cs cs') :
    constructs s'.access cs' = constructs s.access cs := by
  induction h with
  | nil => rfl
  | left hc _ ih => rw [ih, constructs_skip _ (access_of_isTriviaLeaf hc).1]
  | right hc _ ih => rw [constructs_skip _ (access_of_isTriviaLeaf hc).1, ih]
  | @both c _ _ hc _ ih =>
    have hrole : s'.access.role c = s.access.role c := hc.role_eq
    simp only [constructs, List.filter_cons, hrole] at ih ⊢
    rw [ih]

/-- What is read off the children of a node is the same in both stores, if it is the same for
aligned lists. -/
theorem bind_children {α : Type} {q : Ref} {f f' : List Ref → Except AccessFailure α}
    (h : s.IsForest) (hs : s.Respaced s') (hq : s.Alike s' q)
    (hf : ∀ {cs cs'}, Aligned s s' cs cs' → f' cs' = f cs) :
    (s'.access.children q >>= f') = (s.access.children q >>= f) := by
  rcases hq.access_children with ⟨e, he, he'⟩ | ⟨hcs, hcs'⟩
  · rw [he, he']
    rfl
  · rw [hcs, hcs']
    exact hf (h.aligned hs hq)

/-- A parameter that is the same in both stores adds the same to a view. -/
theorem addParameter_alike (h : s.IsForest) (hs : s.Respaced s') {q : Ref} (hq : s.Alike s' q)
    (view : LambdaView Ref) :
    addParameter s'.access q view = addParameter s.access q view := by
  have hrole : s'.access.role q = s.access.role q := hq.role_eq
  rw [addParameter, addParameter, hrole, hq.access_kind_eq, hq.access_text_eq]
  split
  · rfl
  · refine bind_congr fun kind => ?_
    split
    · refine bind_children h hs hq fun hcs => ?_
      rw [identifierTexts_aligned hcs, hasType_aligned hcs]
    · rfl

/-- Aligned lists add the same parameters. -/
theorem addParameters_aligned (h : s.IsForest) (hs : s.Respaced s') {cs cs' : List Ref}
    (hcs : Aligned s s' cs cs') (view : LambdaView Ref) :
    addParameters s'.access cs' view = addParameters s.access cs view := by
  induction hcs generalizing view with
  | nil => rfl
  | left hc _ ih =>
    obtain ⟨hrole, t, hkind⟩ := access_of_isTriviaLeaf hc
    rw [ih, addParameters_skip _ hkind hrole]
  | right hc _ ih =>
    obtain ⟨hrole, t, hkind⟩ := access_of_isTriviaLeaf hc
    rw [addParameters_skip _ hkind hrole, ih]
  | both hc _ ih =>
    rw [addParameters, addParameters, addParameter_alike h hs hc]
    exact bind_congr fun view => ih view

/-- It has the same body. -/
theorem bodyOf_alike (h : s.IsForest) (hs : s.Respaced s') {q : Ref} (hq : s.Alike s' q) :
    bodyOf s'.access q = bodyOf s.access q := by
  rw [bodyOf, bodyOf, hq.access_kind_eq]
  refine bind_congr fun kind => ?_
  split
  · refine bind_children h hs hq fun hcs => ?_
    rw [constructs_aligned hcs]
  · rfl

/-- Aligned lists are taken apart alike. -/
theorem takeApart_aligned (h : s.IsForest) (hs : s.Respaced s') {cs cs' : List Ref}
    (hcs : Aligned s s' cs cs') (afterArrow : Bool) (view : LambdaView Ref) :
    takeApart s'.access afterArrow cs' view = takeApart s.access afterArrow cs view := by
  induction hcs generalizing afterArrow view with
  | nil => rfl
  | left hc _ ih =>
    obtain ⟨-, t, hkind⟩ := access_of_isTriviaLeaf hc
    rw [ih, takeApart_skip _ hkind]
  | right hc _ ih =>
    obtain ⟨-, t, hkind⟩ := access_of_isTriviaLeaf hc
    rw [takeApart_skip _ hkind, ih]
  | @both c cs cs' hc _ ih =>
    rw [takeApart, takeApart, hc.access_kind_eq]
    refine bind_congr fun kind => ?_
    split
    · refine bind_children h hs hc fun hps => ?_
      rw [addParameters_aligned h hs hps]
      exact bind_congr fun view => ih afterArrow view
    · split
      · exact ih true view
      · split
        · rw [bodyOf_alike h hs hc]
        · exact ih afterArrow view

/-! ## The view of a lambda -/

/-- A lambda expression or a method reference. -/
def IsLambda (s : Store) (r : Ref) : Prop :=
  s.kind? r = some (.construct .lambdaExpression) ∨
    s.kind? r = some (.construct .methodReferenceExpression)

theorem IsLambda.alike {r : Ref} (hr : IsLambda s r) (hs : s.Respaced s') : s.Alike s' r := by
  rcases hs r with halike | ⟨hnone | htrivia, -⟩
  · exact halike
  · simp [IsLambda, kind?, hnone] at hr
  · obtain ⟨-, ⟨t, hkind⟩, -⟩ := isTriviaLeaf_iff.1 htrivia
    simp [IsLambda, hkind] at hr

/-- A node that is the same in both stores has the same view. -/
theorem of_alike (h : s.IsForest) (hs : s.Respaced s') {r : Ref} (hr : s.Alike s' r) :
    LambdaView.of s'.access r = LambdaView.of s.access r := by
  rw [LambdaView.of, LambdaView.of, hr.access_kind_eq]
  rcases hr.access_children with ⟨e, he, he'⟩ | ⟨hcs, hcs'⟩
  · rw [he, he']
  · rw [hcs, hcs']
    simp only [takeApart_aligned h hs (h.aligned hs hr)]

/-- In a forest there is a text for every node of a view. -/
theorem mapExcept_canonical (h : s.IsForest) (view : LambdaView Ref) :
    ∃ strings, view.mapExcept s.canonical = .ok strings := by
  have hcanonical : s.canonical = fun r => pure ((s.tips r).foldl s.writeTip .empty).text :=
    funext h.canonical_tips
  rw [mapExcept, hcanonical]
  cases view.body with
  | expression e => exact ⟨_, rfl⟩
  | statements ss =>
    simp only [List.mapM_pure]
    exact ⟨_, rfl⟩

/-- What is shown of a lambda is the same in two stores: its parameters, whether they have types,
its expression or its statements, and their texts, which are there. -/
def ShownAlike (s s' : Store) (r : Ref) : Prop :=
  LambdaView.of s'.access r = LambdaView.of s.access r ∧
    ∀ view, LambdaView.of s.access r = .ok view →
      ∃ strings, view.mapExcept s.canonical = .ok strings ∧
        view.mapExcept s'.canonical = .ok strings

/-- Leaves of trivia that constructs gain or lose, anywhere in a forest and in whatever way, do not
change what is shown of a lambda; nor does a run of operations that put such leaves in or take them
out. -/
theorem of_respaced (h : s.IsForest) {r : Ref} (hr : IsLambda s r) :
    (∀ s', s.Respaced s' → ShownAlike s s' r) ∧
    (∀ ops, s.EditsTriviaAll ops → ∃ s', s.applyAll ops = (s', .ok ()) ∧ ShownAlike s s' r) := by
  have hshown : ∀ s', s.Respaced s' → ShownAlike s s' r := by
    intro s' hs
    refine ⟨of_alike h hs (hr.alike hs), fun view _ => ?_⟩
    obtain ⟨strings, hstrings⟩ := mapExcept_canonical h view
    rw [funext (h.canonical_respaced hs)]
    exact ⟨strings, hstrings, hstrings⟩
  refine ⟨hshown, fun ops hops => ?_⟩
  obtain ⟨s', happly, hs⟩ := respaced_applyAll hops
  exact ⟨s', happly, hshown s' hs⟩

/-- A lambda with white space before its arrow, a comment and white space that are in no list. -/
def returning : List Surgery :=
  [.create .construct (some (.construct .lambdaExpression)) none none [],
    .create .construct (some (.construct .parameterList)) none (some 0) [],
    .create .token (some (.token .identifier)) (some "x") (some 1) [],
    .create .token (some (.token (.trivia .whiteSpace))) (some " ") (some 0) [],
    .create .token (some (.token (.symbol .arrow))) (some "->") (some 0) [],
    .create .construct (some (.construct .codeBlock)) none (some 0) [],
    .create .token (some (.token (.symbol .leftBrace))) (some "\x7b") (some 5) [],
    .create .construct (some (.construct .returnStatement)) none (some 5) [],
    .create .token (some (.token (.keyword .returnKw))) (some "return") (some 7) [],
    .create .token (some (.token .identifier)) (some "x") (some 7) [],
    .create .token (some (.token (.symbol .semicolon))) (some ";") (some 7) [],
    .create .token (some (.token (.symbol .rightBrace))) (some "\x7d") (some 5) [],
    .create .token (some (.token (.trivia .blockComment))) (some "/* x */") none [],
    .create .token (some (.token (.trivia .whiteSpace))) (some "\n") none []]

/-- The comment goes into the statement and the white space among the parameters, and the white
space before the arrow goes. -/
def respacing : List Surgery :=
  [.insert 7 1 (some 12), .add 1 (some 13), .delete 3]

/-- The lambda stays what it was. -/
theorem of_respaced_returning :
    ∃ s s' view, Store.empty.applyAll returning = (s, .ok ()) ∧ s.IsForest ∧ IsLambda s 0 ∧
      s.EditsTriviaAll respacing ∧ s.applyAll respacing = (s', .ok ()) ∧
      LambdaView.of s.access 0 = .ok view ∧ LambdaView.of s'.access 0 = .ok view ∧
      view.parameters = [some (Text.ofString "x")] ∧ view.statements = [7] ∧
      ∃ strings, view.mapExcept s'.canonical = .ok strings ∧
        strings.text = .ok "x -> return x;\n" := by
  obtain ⟨s, hs, -, hforest⟩ := @isForest_of_grows returning (by decide)
  obtain rfl : (Store.empty.applyAll returning).1 = s := congrArg Prod.fst hs
  have hlambda : IsLambda (Store.empty.applyAll returning).1 0 := .inl (by decide)
  have hedits : (Store.empty.applyAll returning).1.EditsTriviaAll respacing := by
    refine ⟨.insert ⟨by decide, by decide, by decide⟩ (by decide) (by decide),
      .add ⟨by decide, by decide, by decide⟩ (by decide), ?_, trivial⟩
    exact .delete (p := 0) ⟨by decide, by decide, by decide⟩ (by decide) (by decide) (by decide)
  have hview : LambdaView.of (Store.empty.applyAll returning).1.access 0 =
      .ok ⟨[some "x"], false, .statements [7]⟩ := by decide
  obtain ⟨s', happly, hsame, hstrings⟩ := (of_respaced hforest hlambda).2 respacing hedits
  obtain ⟨strings, hbefore, hafter⟩ := hstrings _ hview
  have htexts : mapExcept (Store.empty.applyAll returning).1.canonical
      ⟨[some "x"], false, .statements [7]⟩ =
        .ok ⟨[some "x"], false, .statements ["return x;\n"]⟩ := by decide
  obtain rfl := Except.ok.inj (htexts.symm.trans hbefore)
  exact ⟨_, s', _, hs, hforest, hlambda, hedits, happly, hview, hsame.trans hview, rfl, rfl, _,
    hafter, by decide⟩

end LambdaView

end JavaText
