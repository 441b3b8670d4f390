import JavaText.Proofs.Store.Agreement
import JavaText.Proofs.Tree.Outline
import JavaText.Store.Layout

/-!
# The outline of linked nodes

Where the nodes below a node form a tree of labelled constructs and tokens (`Store.IsLabelled`), the
outline of the node is that of the tree (`Store.outline_of_agrees`). An outline shows the whole
tree, so two such nodes are shown alike just if they are equal (`Store.outline_faithful`).
-/

namespace JavaText

namespace Store

variable {s : Store} {r q : Ref}

/-- Below a node are constructs with kinds of construct, and tokens without children that have kinds
of token and texts. What text a construct has does not matter, nor where the parent links lead. -/
inductive IsLabelled (s : Store) : Ref → Prop
  | token {r : Ref} {k : TokenKind} {t : Text} {parent : Option Ref}
    (h : s.node? r = some ⟨.token, .value (.token k), .value t, .value [], parent⟩) :
    s.IsLabelled r
  | construct {r : Ref} {k : ConstructKind} {text : Slot Text} {cs : List Ref}
    {parent : Option Ref}
    (h : s.node? r = some ⟨.construct, .value (.construct k), text, .value cs, parent⟩)
    (hcs : ∀ c ∈ cs, s.IsLabelled c) : s.IsLabelled r

/-- Nodes that each agree with a tree agree with the list of them. -/
theorem exists_agreesAll {P : Tree → Prop} : ∀ {rs : List Ref},
    (∀ r ∈ rs, ∃ t, P t ∧ s.agrees t r) → ∃ ts, (∀ t ∈ ts, P t) ∧ s.agreesAll ts rs
  | [], _ => ⟨[], List.forall_mem_nil _, by rw [agreesAll]⟩
  | r :: rs, h => by
    rw [List.forall_mem_cons] at h
    obtain ⟨⟨t, ht, htr⟩, hrs⟩ := h
    obtain ⟨ts, hts, htsrs⟩ := exists_agreesAll hrs
    exact ⟨t :: ts, List.forall_mem_cons.2 ⟨ht, hts⟩, agreesAll_cons.2 ⟨htr, htsrs⟩⟩

namespace IsLabelled

/-- The nodes form a labelled tree. -/
theorem exists_agrees (h : s.IsLabelled r) : ∃ t : Tree, t.IsLabelled ∧ s.agrees t r := by
  induction h with
  | @token r k t parent h =>
    refine ⟨_, .token k t, agrees_token.2 ?_⟩
    simp [label, role, kind?, text?, childrenOf, h, Slot.get?]
  | @construct r k text cs parent h _ ih =>
    obtain ⟨ts, hts, hcs⟩ := exists_agreesAll ih
    refine ⟨_, .construct k hts, agrees_construct.2 ?_⟩
    simp [label, role, kind?, childrenOf, h, Slot.get?, hcs]

/-- What is below a labelled node is labelled. -/
theorem child (h : s.IsLabelled r) {c : Ref} (hc : c ∈ s.childrenOf r) : s.IsLabelled c := by
  cases h with
  | token h => simp [childrenOf, h, Slot.get?] at hc
  | construct h hcs => exact hcs c (by simpa [childrenOf, h, Slot.get?] using hc)

/-- A labelled node can be compared with others. -/
theorem isComparable (h : s.IsLabelled r) : s.IsComparable r := by
  obtain ⟨t, -, ht⟩ := h.exists_agrees
  exact isComparable_of_agrees ht

theorem access_kind (h : s.IsLabelled r) : s.access.kind r = .ok (s.kind? r) := by
  cases h with
  | token h => simp [access, kind?, h, Slot.read, Slot.get?]
  | construct h _ => simp [access, kind?, h, Slot.read, Slot.get?]

theorem access_children (h : s.IsLabelled r) : s.access.children r = .ok (s.childrenOf r) := by
  cases h with
  | token h => simp [access, childrenOf, h, Slot.demand, Slot.get?]
  | construct h _ => simp [access, childrenOf, h, Slot.demand, Slot.get?]

end IsLabelled

/-! ## Lines -/

/-- A token has one line. -/
theorem outlineFrom_token (h : s.IsLabelled r) (hrole : s.role r = .token) (fuel depth : Nat) :
    s.outlineFrom (fuel + 1) depth r = .ok [Outline.tokenLine depth ⟨s.kind? r, s.text? r⟩] := by
  rw [outlineFrom, h.access_kind, hrole]
  rfl

/-- A construct has a line of its own, and then those of its children. -/
theorem outlineFrom_construct (h : s.IsLabelled r) (hrole : s.role r = .construct)
    (fuel depth : Nat) :
    s.outlineFrom (fuel + 1) depth r =
      ((s.childrenOf r).mapM (s.outlineFrom fuel (depth + 1))).map
        fun lines => Outline.constructLine depth (s.kind? r) :: lines.flatten := by
  rw [outlineFrom, h.access_kind, h.access_children, hrole]
  rfl

/-- The outlines of nodes that form trees are those of the trees, if that is so for each. -/
theorem exists_mapM_outlineFrom {fuel depth : Nat} : ∀ {ts : List Tree} {rs : List Ref},
    (∀ r ∈ rs, ∀ t : Tree, s.agrees t r →
      s.outlineFrom fuel depth r = .ok (t.outlineLines depth)) → s.agreesAll ts rs →
    ∃ lines, rs.mapM (s.outlineFrom fuel depth) = .ok lines ∧
      lines.flatten = Tree.outlineLinesOf depth ts
  | [], [], _, _ => ⟨[], rfl, by rw [Tree.outlineLinesOf]; rfl⟩
  | t :: ts, r :: rs, h, hts => by
    obtain ⟨hr, hrs⟩ := List.forall_mem_cons.1 h
    obtain ⟨htr, htsrs⟩ := agreesAll_cons.1 hts
    obtain ⟨lines, hlines, hflatten⟩ := exists_mapM_outlineFrom hrs htsrs
    refine ⟨t.outlineLines depth :: lines, ?_, ?_⟩
    · rw [List.mapM_cons, hr t htr, hlines]
      rfl
    · rw [List.flatten_cons, hflatten, Tree.outlineLinesOf]

/-- The lines of the outline of a node are those of the tree that is below it. -/
theorem outlineFrom_of_agrees (h : s.IsLabelled r) {t : Tree} (ht : s.agrees t r) (depth : Nat) :
    s.outlineFrom s.depth depth r = .ok (t.outlineLines depth) := by
  refine h.isComparable.ends.fuel_induction (fun _ _ => lt_size_of_mem_childrenOf)
    (P := fun fuel r => s.IsLabelled r → ∀ (t : Tree) (depth : Nat), s.agrees t r →
      s.outlineFrom fuel depth r = .ok (t.outlineLines depth))
    (fun fuel r _ _ ih hr t depth ht => ?_) (Nat.lt_succ_self s.size) h t depth ht
  cases t with
  | token t =>
    obtain ⟨hrole, hkind, htext, -⟩ := parts_of_agrees_token ht
    rw [outlineFrom_token hr hrole, hkind, htext, Tree.outlineLines]
  | construct k ts =>
    obtain ⟨hrole, hkind, hts⟩ := parts_of_agrees_construct ht
    obtain ⟨lines, hlines, hflatten⟩ := exists_mapM_outlineFrom
      (fun c hc t htc => ih c hc (hr.child hc) t (depth + 1) htc) hts
    rw [outlineFrom_construct hr hrole, hlines, hkind, Tree.outlineLines, ← hflatten]
    rfl

/-- Asked for its outline, a node shows that of the tree that is below it. -/
theorem layout_of_agrees (h : s.IsLabelled r) {t : Tree} (ht : s.agrees t r) :
    s.layout r outlineRequest = .ok t.outline := by
  have hnode : s.isNode r = true := h.isComparable.isNode r .refl
  rw [layout, if_neg (by simp [outlineRequest, Text.ofString]), if_neg (by simp [hnode]),
    if_pos rfl, outline, if_neg (by simp [hnode]), outlineFrom_of_agrees h ht]
  rfl

/-- Two nodes with labelled trees below them are both shown when asked for their outlines, and they
are shown alike just if they are equal. -/
theorem outline_faithful (hr : s.IsLabelled r) (hq : s.IsLabelled q) :
    ∃ x y, s.layout r outlineRequest = .ok x ∧ s.layout q outlineRequest = .ok y ∧
      (x = y ↔ s.equal r q = .ok true) := by
  obtain ⟨t, ht, htr⟩ := hr.exists_agrees
  obtain ⟨u, hu, huq⟩ := hq.exists_agrees
  refine ⟨t.outline, u.outline, layout_of_agrees hr htr, layout_of_agrees hq huq, ?_⟩
  rw [equal_eq_true_iff hr.isComparable, identical_iff_of_agrees htr huq]
  exact ⟨Tree.outline_injective ht hu, congrArg Tree.outline⟩

/-- Three methods: a literal with a line separator, both quotes, a backslash and half of a surrogate
pair in it, a literal with the escape of the line separator in its place, and the first literal
again. All of them list the same name. -/
def separated : Store :=
  { nodes := #[
      ⟨.construct, .value (.construct .method), .absent, .value [3, 4], none⟩,
      ⟨.construct, .value (.construct .method), .empty, .value [3, 5], none⟩,
      ⟨.construct, .value (.construct .method), .absent, .value [3, 6], some 1⟩,
      ⟨.token, .value (.token .identifier), .value (Text.ofString "f"), .value [], some 0⟩,
      ⟨.token, .value (.token (.literal .string)), .value (.ofNat 0x2028 :: tail), .value [], none⟩,
      ⟨.token, .value (.token (.literal .string)), .value (Text.ofString "\\u2028" ++ tail),
        .value [], some 1⟩,
      ⟨.token, .value (.token (.literal .string)), .value (.ofNat 0x2028 :: tail), .value [],
        some 4⟩] }
where
  /-- What follows in each of the literals. -/
  tail : Text := Text.ofString "'\"\\\n" ++ [.ofNat 0xd800]

theorem outline_faithful_separated :
    separated.IsLabelled 0 ∧ separated.IsLabelled 1 ∧ separated.IsLabelled 2 ∧
    (∃ x y, separated.layout 0 outlineRequest = .ok x ∧ separated.layout 1 outlineRequest = .ok y ∧
      x ≠ y) ∧
    ∃ x, separated.layout 0 outlineRequest = .ok x ∧ separated.layout 2 outlineRequest = .ok x := by
  have htoken : ∀ r ∈ [3, 4, 5, 6], separated.IsLabelled r := by
    simp only [List.forall_mem_cons, List.not_mem_nil, false_implies, implies_true, and_true]
    exact ⟨.token rfl, .token rfl, .token rfl, .token rfl⟩
  have h₀ : separated.IsLabelled 0 := .construct rfl fun c hc => htoken c (by revert c; decide)
  have h₁ : separated.IsLabelled 1 := .construct rfl fun c hc => htoken c (by revert c; decide)
  have h₂ : separated.IsLabelled 2 := .construct rfl fun c hc => htoken c (by revert c; decide)
  refine ⟨h₀, h₁, h₂, ?_, ?_⟩
  · obtain ⟨x, y, hx, hy, hiff⟩ := outline_faithful h₀ h₁
    exact ⟨x, y, hx, hy, fun h => absurd (hiff.1 h) (by decide +kernel)⟩
  · obtain ⟨x, y, hx, hy, hiff⟩ := outline_faithful h₀ h₂
    obtain rfl := hiff.2 (by decide +kernel)
    exact ⟨x, hx, hy⟩

end Store

end JavaText
