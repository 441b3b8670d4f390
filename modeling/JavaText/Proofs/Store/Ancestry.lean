import JavaText.Proofs.Store.Tips
import Mathlib.Data.List.Chain

/-!
# The way up along any parent links

Parent links may lead round in a circle, out of the tree or to an object that is no node, and need
not agree with the lists of children. A way up from a node follows the links and meets no node twice
(`Store.IsWayUp`). As a node has one parent link at most, of two ways up one is the start of the
other, and the ancestors are the longest one (`Store.isWayUp_iff_prefix_ancestors`): it ends just
where the next link is missing or leads to a node that was met before.

What stands around a token depends on the parent links in this way only, so the canonical text is
written in any store in which the ways down from the node end (`Store.ancestors_longest_way`).
-/

namespace JavaText

namespace Store

/-! ## Ways up -/

/-- A way up from a node: each node is the parent of the one before, no node is met twice, and none
that was seen before. -/
structure IsWayUp (s : Store) (seen : List Ref) (r : Ref) (way : List Ref) : Prop where
  links : (r :: way).IsChain s.Up
  nodup : way.Nodup
  fresh : ∀ a ∈ way, a ∉ seen

variable {s : Store} {seen way : List Ref} {r p : Ref}

theorem isWayUp_nil : s.IsWayUp seen r [] where
  links := List.isChain_singleton r
  nodup := List.nodup_nil
  fresh := List.forall_mem_nil _

/-- The first step of a way up. -/
theorem isWayUp_cons : s.IsWayUp seen r (p :: way) ↔
    s.parent? r = some p ∧ p ∉ seen ∧ s.IsWayUp (p :: seen) p way := by
  constructor
  · intro h
    obtain ⟨hup, hlinks⟩ := List.isChain_cons_cons.1 h.links
    obtain ⟨hnew, hnodup⟩ := List.nodup_cons.1 h.nodup
    obtain ⟨hp, hfresh⟩ := List.forall_mem_cons.1 h.fresh
    refine ⟨hup, hp, hlinks, hnodup, fun a ha => ?_⟩
    rw [List.mem_cons, not_or]
    exact ⟨fun hap => hnew (hap ▸ ha), hfresh a ha⟩
  · rintro ⟨hup, hp, h⟩
    refine ⟨List.isChain_cons_cons.2 ⟨hup, h.links⟩, ?_, List.forall_mem_cons.2 ⟨hp, ?_⟩⟩
    · exact List.nodup_cons.2 ⟨fun hmem => h.fresh p hmem List.mem_cons_self, h.nodup⟩
    · exact fun a ha hseen => h.fresh a ha (List.mem_cons_of_mem p hseen)

/-- The last step of a way up. -/
theorem isWayUp_append_singleton : s.IsWayUp seen r (way ++ [p]) ↔
    s.IsWayUp seen r way ∧ s.parent? (way.getLastD r) = some p ∧ p ∉ seen ∧ p ∉ way := by
  induction way generalizing seen r with
  | nil => simp [isWayUp_cons, isWayUp_nil]
  | cons q way ih =>
    rw [List.cons_append, isWayUp_cons, isWayUp_cons, ih, List.getLastD_cons]
    simp only [List.mem_cons, not_or]
    tauto

/-! ## The longest way up -/

/-- The ways up are the starts of what the walk visits. All nodes that it has seen, except perhaps
the one where it stands, have a parent; so there is fuel for each. -/
theorem isWayUp_iff_prefix_chain {fuel : Nat} (hnodup : seen.Nodup) (hr : r ∈ seen)
    (hseen : ∀ q ∈ seen, q ≠ r → q < s.size) (hfuel : s.size < fuel + seen.length) :
    s.IsWayUp seen r way ↔ way <+: s.chain fuel seen (s.parent? r) := by
  induction fuel generalizing seen r way with
  | zero =>
    cases hp : s.parent? r with
    | none =>
      cases way with
      | nil => simp [isWayUp_nil]
      | cons q way => simp [isWayUp_cons, hp, chain]
    | some p =>
      -- without fuel, more nodes would have been seen than there are
      have hlt : ∀ q ∈ seen, q < s.size := by
        intro q hq
        by_cases hqr : q = r
        · exact hqr ▸ lt_size_of_parent? hp
        · exact hseen q hq hqr
      have hle := length_le_of_lt hnodup hlt
      omega
  | succ fuel ih =>
    cases way with
    | nil => simp [isWayUp_nil]
    | cons q way =>
      rw [isWayUp_cons]
      cases hp : s.parent? r with
      | none => simp [chain]
      | some p =>
        rw [chain]
        by_cases hmem : p ∈ seen
        · rw [if_pos (by simpa using hmem)]
          refine iff_of_false ?_ (by simp)
          rintro ⟨hpq, hq, -⟩
          exact hq (Option.some.inj hpq ▸ hmem)
        · rw [if_neg (by simpa using hmem), List.cons_prefix_cons, Option.some.injEq]
          have hlt : ∀ a ∈ p :: seen, a ≠ p → a < s.size := by
            intro a ha hap
            have ha := (List.mem_cons.1 ha).resolve_left hap
            by_cases har : a = r
            · exact har ▸ lt_size_of_parent? hp
            · exact hseen a ha har
          have hrest : s.IsWayUp (p :: seen) p way ↔
              way <+: s.chain fuel (p :: seen) (s.parent? p) :=
            ih (List.nodup_cons.2 ⟨hmem, hnodup⟩) List.mem_cons_self hlt
              (by rw [List.length_cons]; omega)
          constructor
          · rintro ⟨rfl, -, hway⟩
            exact ⟨rfl, hrest.1 hway⟩
          · rintro ⟨rfl, hway⟩
            exact ⟨rfl, hmem, hrest.2 hway⟩

/-- The ways up from a node are the starts of its ancestors. -/
theorem isWayUp_iff_prefix_ancestors : s.IsWayUp [r] r way ↔ way <+: s.ancestors r :=
  isWayUp_iff_prefix_chain (List.nodup_singleton r) List.mem_cons_self
    (fun _ hq hne => absurd (List.mem_singleton.1 hq) hne)
    (by rw [List.length_singleton]; omega)

theorem isWayUp_ancestors (s : Store) (r : Ref) : s.IsWayUp [r] r (s.ancestors r) :=
  isWayUp_iff_prefix_ancestors.2 (List.prefix_refl _)

/-- The ancestors are the way up that ends where the next link is missing or leads to the node
itself or to one that is on the way already. -/
theorem eq_ancestors_iff : way = s.ancestors r ↔ s.IsWayUp [r] r way ∧
    ∀ p, s.parent? (way.getLastD r) = some p → p = r ∨ p ∈ way := by
  constructor
  · rintro rfl
    refine ⟨isWayUp_ancestors s r, fun p hp => ?_⟩
    by_contra hnew
    rw [not_or] at hnew
    have hway : s.IsWayUp [r] r (s.ancestors r ++ [p]) :=
      isWayUp_append_singleton.2 ⟨isWayUp_ancestors s r, hp, by simpa using hnew.1, hnew.2⟩
    have hle := (isWayUp_iff_prefix_ancestors.1 hway).length_le
    rw [List.length_append, List.length_singleton] at hle
    omega
  · rintro ⟨hway, hend⟩
    obtain ⟨rest, hrest⟩ := isWayUp_iff_prefix_ancestors.1 hway
    cases rest with
    | nil => rw [← hrest, List.append_nil]
    | cons p rest =>
      have hlonger : s.IsWayUp [r] r (way ++ [p]) :=
        isWayUp_iff_prefix_ancestors.2 ⟨rest, by simpa using hrest⟩
      obtain ⟨-, hp, hne, hnew⟩ := isWayUp_append_singleton.1 hlonger
      rcases hend p hp with rfl | hmem
      · exact absurd List.mem_cons_self hne
      · exact absurd hmem hnew

/-- An ancestor is where some way up leads to. -/
theorem mem_ancestors_iff {a : Ref} :
    a ∈ s.ancestors r ↔ ∃ way, s.IsWayUp [r] r (way ++ [a]) := by
  constructor
  · intro ha
    obtain ⟨way, rest, hsplit⟩ := List.append_of_mem ha
    exact ⟨way, isWayUp_iff_prefix_ancestors.2 ⟨rest, by simp [hsplit]⟩⟩
  · rintro ⟨way, hway⟩
    exact (isWayUp_iff_prefix_ancestors.1 hway).subset (by simp)

/-! ## What stands around a token -/

/-- A node counts as inside an annotation or an array initializer just if some way up leads to one.
-/
theorem annotated_surroundings_iff : (s.surroundings r).annotated = true ↔
    ∃ way a k, s.IsWayUp [r] r (way ++ [a]) ∧ k ∈ Spacing.annotatingConstructs ∧
      s.kind? a = some (.construct k) := by
  have hkind : ∀ a, Kind.isOneOfConstructs Spacing.annotatingConstructs (s.kind? a) = true ↔
      ∃ k ∈ Spacing.annotatingConstructs, s.kind? a = some (.construct k) := by
    intro a
    rcases s.kind? a with _ | k | k | n <;> simp [Kind.isOneOfConstructs]
  simp only [surroundings, List.any_eq_true, hkind, mem_ancestors_iff]
  constructor
  · rintro ⟨a, ⟨way, hway⟩, k, hk, ha⟩
    exact ⟨way, a, k, hway, hk, ha⟩
  · rintro ⟨way, a, k, hway, hk, ha⟩
    exact ⟨a, ⟨way, hway⟩, k, hk, ha⟩

/-- The ancestors of a node are the longest way up from it: every way up is a start of it, and it is
the one that ends where the next link is missing or leads to a node that was met before. A node
counts as inside an annotation or an array initializer just if one is on this way; and where the
ways down from a node end, the canonical text below it is written, token by token. -/
theorem ancestors_longest_way (s : Store) (r : Ref) :
    (∀ way, s.IsWayUp [r] r way ↔ way <+: s.ancestors r) ∧
    (∀ way, way = s.ancestors r ↔ s.IsWayUp [r] r way ∧
      ∀ p, s.parent? (way.getLastD r) = some p → p = r ∨ p ∈ way) ∧
    ((s.surroundings r).annotated = true ↔
      ∃ way a k, s.IsWayUp [r] r (way ++ [a]) ∧ k ∈ Spacing.annotatingConstructs ∧
        s.kind? a = some (.construct k)) ∧
    (s.EndsBelow r → s.canonical r = .ok ((s.tips r).foldl s.writeTip .empty).text) :=
  ⟨fun _ => isWayUp_iff_prefix_ancestors, fun _ => eq_ancestors_iff, annotated_surroundings_iff,
    EndsBelow.canonical_tips⟩

/-- An outside object that is its own parent lists a left brace, whose parent is an annotation that
lists nothing and is in a circle with another construct, a right brace and a semicolon, which is its
own parent too. -/
def entangled : Store :=
  { nodes := #[
      ⟨.outside (.object "Frame"), .absent, .absent, .value [1, 2, 3], some 0⟩,
      ⟨.token, .value (.token (.symbol .leftBrace)), .value (Text.ofString "\x7b"), .value [],
        some 4⟩,
      ⟨.token, .value (.token (.symbol .rightBrace)), .value (Text.ofString "\x7d"), .value [],
        some 0⟩,
      ⟨.token, .value (.token (.symbol .semicolon)), .value (Text.ofString ";"), .value [], some 3⟩,
      ⟨.construct, .value (.construct .annotationUse), .absent, .value [], some 5⟩,
      ⟨.construct, .value (.plain "circle"), .absent, .value [], some 4⟩] }

/-- The way up from the left brace ends before it comes back to the annotation, and only this brace
ends no line. -/
theorem ancestors_longest_way_entangled :
    entangled.IsWayUp [1] 1 [4, 5] ∧ entangled.ancestors 1 = [4, 5] ∧
    (entangled.surroundings 1).annotated = true ∧ entangled.ancestors 3 = [] ∧
    entangled.EndsBelow 0 ∧ entangled.canonical 0 = .ok "{}\n;\n" := by
  have hends : entangled.EndsBelow 0 := .of_lt (by decide)
  have hway : entangled.IsWayUp [1] 1 [4, 5] :=
    isWayUp_cons.2 ⟨by decide, by decide, isWayUp_cons.2 ⟨by decide, by decide, isWayUp_nil⟩⟩
  have hsurroundings := (ancestors_longest_way entangled 1).2.2.1.2
    ⟨[], 4, .annotationUse, isWayUp_iff_prefix_ancestors.2 (by decide), by decide, by decide⟩
  refine ⟨hway, ?_, hsurroundings, by decide, hends, ?_⟩
  · exact (((ancestors_longest_way entangled 1).2.1 [4, 5]).2 ⟨hway, by decide⟩).symm
  · rw [(ancestors_longest_way entangled 0).2.2.2 hends]
    decide +kernel

end Store

end JavaText
