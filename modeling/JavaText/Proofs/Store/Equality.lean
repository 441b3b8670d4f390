import JavaText.Proofs.Store.Descent
import Mathlib.Data.List.Forall2

/-!
# Equality of linked nodes

Two nodes are identical in structure if the same places are taken below them, a place being the list
of the indices that lead there, and the nodes at each place look the same: they are of one class,
their kinds are equal and, if they are tokens, their texts (`Store.Identical`). This is an
equivalence, whatever the links are.

The comparison of two nodes follows the class of the first one and goes down child by child, up to
the first difference. If there are nodes only below the first one, and all ways down from it end,
the comparison ends too and decides whether the two are identical (`Store.exists_equalFrom`). So it
does not matter which of two such nodes comes first (`Store.equal_decides_identity`).
-/

namespace JavaText

open Relation

namespace Store

variable {s : Store} {r q p c : Ref}

/-! ## Identical structure -/

/-- What is compared at a place: the class, the kind and, of a token, the text. -/
def face (s : Store) (r : Ref) : Role × Option Kind × Option Text :=
  (s.role r, s.kind? r, if s.role r = .token then s.text? r else none)

/-- The node at a place below a node, which the indices of children lead to. -/
def at? (s : Store) : Ref → List Nat → Option Ref
  | r, [] => some r
  | r, i :: place => ((s.childrenOf r)[i]?).bind fun c => s.at? c place

/-- The same places are taken below two nodes, and what is there looks the same. -/
def Identical (s : Store) (r q : Ref) : Prop :=
  ∀ place, (s.at? r place).map s.face = (s.at? q place).map s.face

theorem Identical.refl (s : Store) (r : Ref) : s.Identical r r :=
  fun _ => rfl

theorem Identical.symm (h : s.Identical r q) : s.Identical q r :=
  fun place => (h place).symm

theorem Identical.trans (h : s.Identical r q) (h' : s.Identical q p) : s.Identical r p :=
  fun place => (h place).trans (h' place)

theorem face_eq_iff : s.face r = s.face q ↔ s.role r = s.role q ∧ s.kind? r = s.kind? q ∧
    (s.role r = .token → s.text? r = s.text? q) := by
  simp only [face, Prod.mk.injEq]
  refine and_congr_right fun hrole => and_congr_right fun _ => ?_
  rw [← hrole]
  by_cases htoken : s.role r = .token <;> simp [htoken]

/-- Nodes are identical if they look the same and their children are identical in pairs. -/
theorem identical_iff : s.Identical r q ↔
    s.face r = s.face q ∧ List.Forall₂ s.Identical (s.childrenOf r) (s.childrenOf q) := by
  constructor
  · intro h
    have htaken : ∀ i : Nat, (s.childrenOf r)[i]? = none ↔ (s.childrenOf q)[i]? = none := by
      intro i
      have hplace := h [i]
      simp only [at?, Option.bind_fun_some] at hplace
      rw [← Option.map_eq_none_iff (f := s.face), hplace, Option.map_eq_none_iff]
    have hlength : (s.childrenOf r).length = (s.childrenOf q).length := by
      refine Nat.le_antisymm ?_ ?_
      · exact List.getElem?_eq_none_iff.1 ((htaken _).2 (List.getElem?_eq_none (Nat.le_refl _)))
      · exact List.getElem?_eq_none_iff.1 ((htaken _).1 (List.getElem?_eq_none (Nat.le_refl _)))
    refine ⟨Option.some.inj (h []), List.forall₂_iff_get.2 ⟨hlength, fun i hi hi' place => ?_⟩⟩
    have hplace := h (i :: place)
    rwa [at?, at?, List.getElem?_eq_getElem hi, List.getElem?_eq_getElem hi'] at hplace
  · rintro ⟨hface, hchildren⟩ place
    cases place with
    | nil => exact congrArg some hface
    | cons i place =>
      obtain ⟨hlength, hget⟩ := List.forall₂_iff_get.1 hchildren
      rw [at?, at?]
      rcases Nat.lt_or_ge i (s.childrenOf r).length with hi | hi
      · have hi' : i < (s.childrenOf q).length := hlength ▸ hi
        rw [List.getElem?_eq_getElem hi, List.getElem?_eq_getElem hi']
        exact hget i hi hi' place
      · rw [List.getElem?_eq_none hi, List.getElem?_eq_none (hlength ▸ hi)]

/-! ## The comparison -/

/-- Below a node are nodes only, and all ways down from it end. -/
structure IsComparable (s : Store) (r : Ref) : Prop where
  ends : s.EndsBelow r
  isNode : ∀ q, ReflTransGen s.Lists r q → s.isNode q = true

namespace IsComparable

theorem child (h : s.IsComparable r) (hc : c ∈ s.childrenOf r) : s.IsComparable c where
  ends := h.ends.child hc
  isNode q hq := h.isNode q (.head hc hq)

/-- A node whose children can be compared can be compared. -/
theorem of_children (hr : s.isNode r = true) (h : ∀ c ∈ s.childrenOf r, s.IsComparable c) :
    s.IsComparable r where
  ends := .of_children fun c hc => (h c hc).ends
  isNode q hq := by
    rcases ReflTransGen.cases_head hq with rfl | ⟨c, hc, hq⟩
    · exact hr
    · exact (h c hc).isNode q hq

/-- If all objects are nodes and each has a larger number than the one that lists it, all nodes can
be compared. -/
theorem of_lt (hr : r < s.size) (hnode : ∀ p < s.size, s.isNode p = true)
    (hlt : ∀ p < s.size, ∀ c ∈ s.childrenOf p, p < c ∧ c < s.size) : s.IsComparable r := by
  refine ⟨.of_lt fun p hp c hc => (hlt p hp c hc).1, fun q hq => hnode q ?_⟩
  rcases ReflTransGen.cases_tail hq with rfl | ⟨p, -, hc⟩
  · exact hr
  · exact (hlt p (lt_size_of_mem_childrenOf hc) q hc).2

end IsComparable

/-- Comparing nodes in pairs up to the first difference decides whether all pairs are related, if
comparing two of them decides whether they are. -/
theorem exists_allEqual {equal : Ref → Ref → Except WalkError Bool} {R : Ref → Ref → Prop} :
    ∀ {rs qs : List Ref}, (∀ r ∈ rs, ∀ q, ∃ b, equal r q = .ok b ∧ (b = true ↔ R r q)) →
      rs.length = qs.length →
        ∃ b, equalFrom.allEqual equal rs qs = .ok b ∧ (b = true ↔ List.Forall₂ R rs qs)
  | [], [], _, _ => ⟨true, rfl, by simp⟩
  | r :: rs, q :: qs, h, hlength => by
    obtain ⟨hr, hrs⟩ := List.forall_mem_cons.1 h
    obtain ⟨b, hb, hiff⟩ := hr q
    rw [equalFrom.allEqual, hb]
    cases b with
    | false => exact ⟨false, rfl, by simpa using fun hR => absurd (hiff.2 hR) Bool.false_ne_true⟩
    | true =>
      obtain ⟨b, hb, hrest⟩ := exists_allEqual hrs (Nat.succ.inj hlength)
      refine ⟨b, hb, ?_⟩
      rw [hrest, List.forall₂_cons]
      exact (and_iff_right (hiff.1 rfl)).symm

/-- Comparing a node below which are nodes only, and all ways down end, with another one decides
whether they are identical. The fuel lasts on the ways down from the first one already. -/
theorem exists_equalFrom (h : s.IsComparable r) {fuel : Nat} (hfuel : s.size < fuel) (q : Ref) :
    ∃ b, s.equalFrom fuel r q = .ok b ∧ (b = true ↔ s.Identical r q) := by
  refine h.ends.fuel_induction (fun _ _ => lt_size_of_mem_childrenOf)
    (P := fun fuel r => s.IsComparable r → ∀ q,
      ∃ b, s.equalFrom fuel r q = .ok b ∧ (b = true ↔ s.Identical r q))
    (fun fuel r _ _ ih hr q => ?_) hfuel h q
  rw [equalFrom, if_neg (by simp [hr.isNode r .refl])]
  split
  · next hdiffers =>
    refine ⟨false, rfl, iff_of_false Bool.false_ne_true fun hsame => ?_⟩
    obtain ⟨hface, hchildren⟩ := identical_iff.1 hsame
    obtain ⟨hrole, hkind, -⟩ := face_eq_iff.1 hface
    rcases hdiffers with hdiffers | hdiffers | hdiffers
    · exact hdiffers hrole
    · exact hdiffers hkind
    · exact hdiffers hchildren.length_eq
  · next hsame =>
    simp only [not_or, not_not] at hsame
    obtain ⟨hrole, hkind, hlength⟩ := hsame
    obtain ⟨b, hb, hbelow⟩ := exists_allEqual (fun c hc => ih c hc (hr.child hc)) hlength
    refine ⟨b && (s.role r != .token || s.text? r == s.text? q), by rw [hb]; rfl, ?_⟩
    have htext : (s.role r != .token || s.text? r == s.text? q) = true ↔
        (s.role r = .token → s.text? r = s.text? q) := by
      by_cases htoken : s.role r = .token <;> simp [htoken]
    rw [Bool.and_eq_true, hbelow, htext, identical_iff, face_eq_iff, and_comm]
    simp [hrole, hkind]

theorem exists_equal (h : s.IsComparable r) (q : Ref) :
    ∃ b, s.equal r q = .ok b ∧ (b = true ↔ s.Identical r q) :=
  exists_equalFrom h (Nat.lt_succ_of_le (Nat.le_mul_self s.size)) q

theorem equal_eq_true_iff (h : s.IsComparable r) : s.equal r q = .ok true ↔ s.Identical r q := by
  obtain ⟨b, hb, hiff⟩ := exists_equal h q
  rw [hb, Except.ok.injEq, hiff]

theorem equal_eq_false_iff (h : s.IsComparable r) :
    s.equal r q = .ok false ↔ ¬s.Identical r q := by
  obtain ⟨b, hb, hiff⟩ := exists_equal h q
  rw [hb, Except.ok.injEq, ← hiff, Bool.not_eq_true]

/-- Which of two nodes comes first does not matter. -/
theorem equal_comm (hr : s.IsComparable r) (hq : s.IsComparable q) :
    s.equal r q = s.equal q r := by
  by_cases h : s.Identical r q
  · rw [(equal_eq_true_iff hr).2 h, (equal_eq_true_iff hq).2 h.symm]
  · rw [(equal_eq_false_iff hr).2 h, (equal_eq_false_iff hq).2 fun h' => h h'.symm]

/-- The comparison of two nodes ends and decides whether they are identical in structure: whether
the same places are taken below them and what is there is of the same class, of equal kinds and, if
it is a token, of equal texts. So each node is equal to itself, the order of the two does not
matter, and what is equal to the second one is equal to the first. -/
theorem equal_decides_identity (hr : s.IsComparable r) (hq : s.IsComparable q) :
    (s.equal r q = .ok true ↔ s.Identical r q) ∧
    (s.equal r q = .ok false ↔ ¬s.Identical r q) ∧
    s.equal r r = .ok true ∧
    s.equal r q = s.equal q r ∧
    ∀ p, s.equal r q = .ok true → s.equal q p = .ok true → s.equal r p = .ok true := by
  refine ⟨equal_eq_true_iff hr, equal_eq_false_iff hr, (equal_eq_true_iff hr).2 (.refl s r),
    equal_comm hr hq, fun p hrq hqp => ?_⟩
  have hidentical := (equal_eq_true_iff hr).1 hrq
  exact (equal_eq_true_iff hr).2 (hidentical.trans ((equal_eq_true_iff hq).1 hqp))

/-- Two methods with a token twice, a token that has a child itself: the one lists the same token
twice, the other one two tokens. A third one has a plain name for its kind. The text of a node that
is no token does not count. -/
def lookalikes : Store :=
  { nodes := #[
      ⟨.construct, .value (.construct .method), .absent, .value [3, 3], none⟩,
      ⟨.construct, .value (.construct .method), .absent, .value [3, 4], none⟩,
      ⟨.construct, .value (.plain "METHOD"), .absent, .value [3, 3], none⟩,
      ⟨.token, .value (.token .identifier), .value (Text.ofString "f"), .value [5], some 0⟩,
      ⟨.token, .value (.token .identifier), .value (Text.ofString "f"), .value [6], some 1⟩,
      ⟨.bare, .empty, .absent, .value [], some 3⟩,
      ⟨.bare, .empty, .value (Text.ofString "g"), .value [], some 4⟩] }

theorem equal_decides_identity_lookalikes :
    lookalikes.IsComparable 0 ∧ lookalikes.IsComparable 1 ∧ lookalikes.IsComparable 2 ∧
    lookalikes.equal 0 1 = .ok true ∧ lookalikes.Identical 0 1 ∧
    lookalikes.equal 2 0 = .ok false ∧ ¬lookalikes.Identical 2 0 := by
  have hcomparable : ∀ r < lookalikes.size, lookalikes.IsComparable r := fun r hr =>
    .of_lt hr (by decide) (by decide)
  have h₀ := hcomparable 0 (by decide)
  have h₁ := hcomparable 1 (by decide)
  have h₂ := hcomparable 2 (by decide)
  have htrue : lookalikes.equal 0 1 = .ok true := by decide +kernel
  have hfalse : lookalikes.equal 2 0 = .ok false := by decide +kernel
  exact ⟨h₀, h₁, h₂, htrue, (equal_decides_identity h₀ h₁).1.1 htrue, hfalse,
    (equal_decides_identity h₂ h₀).2.1.1 hfalse⟩

end Store

end JavaText
