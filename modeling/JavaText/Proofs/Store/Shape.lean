import JavaText.Proofs.Store.Forest
import JavaText.Store.Canonical

/-!
# Trees in a forest of linked nodes

In a forest the walk along the parent links finds all nodes above a node (`IsForest.mem_ancestors`),
so what stands around a node follows from what stands around its parent
(`IsForest.surroundings_child`).

A `Shape` is a tree of nodes of any role without the links: `Store.forms` says that the nodes below
a node have a shape. The way down in a forest meets no node twice, so it ends, and the canonical
text below a node is that of its shape in the place where the node stands (`IsForest.canonical_eq`).
-/

namespace JavaText

open Relation

/-! ## Shapes -/

/-- A tree of nodes of any role: what each node is labelled with, and what is below it. -/
inductive Shape
  | node (label : Role × Option Kind × Option Text) (children : List Shape)

namespace Shape

mutual

/-- Write a tree of nodes that stands in the given place. A node without children is a token. -/
def write (p : Surroundings) : Shape → Draft → Draft
  | node (_, kind, text) shapes, d =>
    if shapes.isEmpty then d.writeToken p { kind, text } else writeAll (p.enter kind) shapes d

/-- Write several trees of nodes that stand in the given place. -/
def writeAll (p : Surroundings) : List Shape → Draft → Draft
  | [], d => d
  | shape :: shapes, d => writeAll p shapes (write p shape d)

end

/-- The canonical text of a tree of nodes that stands in the given place. -/
def canonicalIn (p : Surroundings) (shape : Shape) : Text :=
  (shape.write p .empty).text

end Shape

namespace Store

mutual

/-- Whether the nodes below a node have a shape. -/
def forms (s : Store) : Shape → Ref → Bool
  | .node label shapes, r => s.label r == label && s.formAll shapes (s.childrenOf r)

/-- Whether the nodes below some nodes have shapes in pairs. -/
def formAll (s : Store) : List Shape → List Ref → Bool
  | [], [] => true
  | shape :: shapes, r :: rs => s.forms shape r && s.formAll shapes rs
  | _, _ => false

end

variable {s : Store} {r p c : Ref}

theorem forms_node {label : Role × Option Kind × Option Text} {shapes : List Shape} :
    s.forms (.node label shapes) r = true ↔
      s.label r = label ∧ s.formAll shapes (s.childrenOf r) = true := by
  simp [forms]

theorem formAll_cons {shape : Shape} {shapes : List Shape} {rs : List Ref} :
    s.formAll (shape :: shapes) (r :: rs) = true ↔
      s.forms shape r = true ∧ s.formAll shapes rs = true := by
  simp [formAll]

theorem isEmpty_of_formAll : ∀ {shapes : List Shape} {rs : List Ref}, s.formAll shapes rs →
    shapes.isEmpty = rs.isEmpty
  | [], [], _ => rfl
  | _ :: _, _ :: _, _ => rfl

/-! ## The way up -/

/-- The walk up visits all nodes above a node and no others, unless it is led in a circle. All nodes
that it has seen lead to the one where it stands, so it meets none of them again, and there is fuel
for each node. -/
theorem mem_chain (hacyclic : ∀ q, ReflTransGen s.Up r q → ¬TransGen s.Up q q) {a : Ref}
    {fuel : Nat} {seen : List Ref} (hseen : ∀ q ∈ seen, ReflTransGen s.Up q r)
    (hnodup : seen.Nodup) (hfuel : s.size < fuel + seen.length) :
    a ∈ s.chain fuel seen (s.parent? r) ↔ TransGen s.Up r a := by
  have hnone : ∀ {r}, s.parent? r = none → ¬TransGen s.Up r a := by
    intro r hr hup
    obtain ⟨p, hp, -⟩ := TransGen.head'_iff.1 hup
    cases hr.symm.trans hp
  induction fuel generalizing seen r with
  | zero =>
    cases hp : s.parent? r with
    | none => simp [chain, hnone hp]
    | some p =>
      -- without fuel, more nodes would have been seen than there are
      have hlt : ∀ q ∈ seen, q < s.size := by
        intro q hq
        rcases ReflTransGen.cases_head (hseen q hq) with rfl | ⟨b, hqb, -⟩
        · exact lt_size_of_parent? hp
        · exact lt_size_of_parent? hqb
      have hle := length_le_of_lt hnodup hlt
      omega
  | succ fuel ih =>
    cases hp : s.parent? r with
    | none => simp [chain, hnone hp]
    | some p =>
      have hup : ∀ b, s.Up r b ↔ p = b := fun b => by rw [Up, hp, Option.some.injEq]
      have hnew : p ∉ seen := fun hmem => hacyclic p (.single hp) (.tail' (hseen p hmem) hp)
      have hseen' : ∀ q ∈ p :: seen, ReflTransGen s.Up q p := by
        intro q hq
        rcases List.mem_cons.1 hq with rfl | hq
        · exact .refl
        · exact (hseen q hq).tail hp
      have hrest : a ∈ s.chain fuel (p :: seen) (s.parent? p) ↔ TransGen s.Up p a :=
        ih (fun q hq => hacyclic q (.head hp hq)) hseen' (List.nodup_cons.2 ⟨hnew, hnodup⟩)
          (by rw [List.length_cons]; omega)
      have hhead : TransGen s.Up r a ↔ a = p ∨ TransGen s.Up p a := by
        rw [TransGen.head'_iff]
        simp only [hup, exists_eq_left', reflTransGen_iff_eq_or_transGen]
      rw [chain, if_neg (by simpa using hnew), List.mem_cons, hrest, hhead]

/-- The ancestors of a node are the nodes above it, unless the way up leads in a circle. -/
theorem mem_ancestors_of_acyclic (hacyclic : ∀ q, ReflTransGen s.Up r q → ¬TransGen s.Up q q)
    {a : Ref} : a ∈ s.ancestors r ↔ TransGen s.Up r a :=
  mem_chain hacyclic (by simp [ReflTransGen.refl]) (List.nodup_singleton r)
    (by rw [List.length_singleton]; omega)

namespace IsForest

theorem lt_size_of_up (h : s.IsForest) (hup : s.Up c p) : p < s.size :=
  lt_size_of_mem_childrenOf (h.mem_iff.2 hup)

theorem lt_size_of_transGen (h : s.IsForest) (hup : TransGen s.Up c p) : p < s.size := by
  obtain ⟨b, -, hb⟩ := TransGen.tail'_iff.1 hup
  exact h.lt_size_of_up hb

/-- The ancestors of a node are the nodes above it. -/
theorem mem_ancestors (h : s.IsForest) {a : Ref} : a ∈ s.ancestors r ↔ TransGen s.Up r a :=
  mem_ancestors_of_acyclic fun q _ => h.acyclic q

/-- What stands around a child follows from what stands around its parent. -/
theorem surroundings_child (h : s.IsForest) (hc : s.parent? c = some r) :
    s.surroundings c = (s.surroundings r).enter (s.kind? r) := by
  have hany : ∀ f : Ref → Bool, (s.ancestors c).any f = ((s.ancestors r).any f || f r) := by
    intro f
    rw [Bool.eq_iff_iff]
    simp only [Bool.or_eq_true, List.any_eq_true, h.mem_ancestors]
    constructor
    · rintro ⟨a, hup, ha⟩
      obtain ⟨b, hb, hba⟩ := TransGen.head'_iff.1 hup
      obtain rfl : r = b := Option.some.inj (hc.symm.trans hb)
      rcases reflTransGen_iff_eq_or_transGen.1 hba with rfl | hra
      · exact Or.inr ha
      · exact Or.inl ⟨a, hra, ha⟩
    · rintro (⟨a, hra, ha⟩ | hr)
      · exact ⟨a, .head hc hra, ha⟩
      · exact ⟨r, .single hc, hr⟩
  simp [surroundings, Surroundings.enter, hc, hany]

/-! ## The way down -/

mutual

/-- Writing what is below a node is writing its shape. `path` holds nodes above the node, so it is
no longer than the store is large; each unit of fuel that is spent makes it longer. -/
theorem writeFrom_eq (h : s.IsForest) : ∀ {shape : Shape} {r : Ref} {path : List Ref} {fuel : Nat},
    s.forms shape r → path.Nodup → (∀ q ∈ path, TransGen s.Up r q) →
      s.size < fuel + path.length → ∀ d : Draft,
        s.writeFrom fuel r d = .ok (shape.write (s.surroundings r) d)
  | _, r, path, 0, _, hnodup, habove, hfuel, d => by
    have hle := length_le_of_lt hnodup fun q hq => h.lt_size_of_transGen (habove q hq)
    omega
  | .node label shapes, r, path, fuel + 1, hforms, hnodup, habove, hfuel, d => by
    obtain ⟨rfl, hshapes⟩ := forms_node.1 hforms
    have hnew : r ∉ path := fun hmem => h.acyclic r (habove r hmem)
    have habove' : ∀ q ∈ r :: path, ReflTransGen s.Up r q := by
      intro q hq
      rcases List.mem_cons.1 hq with rfl | hq
      · exact .refl
      · exact (habove q hq).to_reflTransGen
    have hfuel' : s.size < fuel + (r :: path).length := by
      rw [List.length_cons]
      omega
    have ih := foldlM_writeFrom_eq h hshapes (fun c hc => h.mem_iff.1 hc)
      (List.nodup_cons.2 ⟨hnew, hnodup⟩) habove' hfuel' d
    rw [writeFrom, label, Shape.write, isEmpty_of_formAll hshapes]
    cases hcs : s.childrenOf r with
    | nil => rfl
    | cons c cs =>
      rw [hcs] at ih
      exact ih

theorem foldlM_writeFrom_eq (h : s.IsForest) : ∀ {shapes : List Shape} {rs : List Ref} {r : Ref}
    {path : List Ref} {fuel : Nat}, s.formAll shapes rs → (∀ c ∈ rs, s.parent? c = some r) →
      path.Nodup → (∀ q ∈ path, ReflTransGen s.Up r q) → s.size < fuel + path.length →
        ∀ d : Draft, rs.foldlM (fun d c => s.writeFrom fuel c d) d =
          .ok (Shape.writeAll ((s.surroundings r).enter (s.kind? r)) shapes d)
  | [], [], r, path, fuel, _, _, _, _, _, d => rfl
  | shape :: shapes, c :: rs, r, path, fuel, hforms, hparent, hnodup, habove, hfuel, d => by
    obtain ⟨hshape, hshapes⟩ := formAll_cons.1 hforms
    obtain ⟨hc, hrs⟩ := List.forall_mem_cons.1 hparent
    have hwrite := writeFrom_eq h hshape hnodup (fun q hq => .head' hc (habove q hq)) hfuel d
    rw [List.foldlM_cons, hwrite, h.surroundings_child hc]
    exact foldlM_writeFrom_eq h hshapes hrs hnodup habove hfuel _

end

/-- The canonical text below a node is that of its shape in its place. -/
theorem canonical_eq (h : s.IsForest) {shape : Shape} (hr : s.forms shape r) :
    s.canonical r = .ok (shape.canonicalIn (s.surroundings r)) := by
  have hwrite := h.writeFrom_eq hr List.nodup_nil nofun
    (show s.size < s.depth + ([] : List Ref).length by simp [depth]) .empty
  rw [canonical, hwrite]
  rfl

end IsForest

end Store

end JavaText
