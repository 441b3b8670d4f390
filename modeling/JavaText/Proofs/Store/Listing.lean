import JavaText.Proofs.Store.Effects

/-!
# Children that their parents list

Calls may build any tangle of nodes: one that is listed twice, or by a former parent as well, or
that is its own ancestor. One half of the agreement between links and lists survives all of this: a
node is listed by the node that its parent link leads to (`Store.IsListed`). So it can always be
deleted, which leaves it without a parent.

The only call that breaks this for a node is an insertion of this node at an index that fits no
machine word, which fails after it has set the link; all other nodes keep their place
(`Effect.isListed`).
-/

namespace JavaText

namespace Store

variable {s s' : Store} {p c : Ref}

/-- A node is listed by its parent, if it has one. -/
def IsListed (s : Store) (c : Ref) : Prop :=
  ∀ p, s.parent? c = some p → c ∈ s.childrenOf p

/-- The stores that calls build from nothing, with the calls from the last to the first. What a call
did before it failed stays. -/
inductive Built : List Surgery → Store → Prop
  | nothing : Built [] empty
  | call {ops : List Surgery} {op : Surgery} {s : Store} (h : Built ops s)
      (hcall : op.IsCall s.size) : Built (op :: ops) (s.apply op).1

theorem Built.isHeap {ops : List Surgery} (h : Built ops s) : s.IsHeap := by
  induction h with
  | nothing => exact isHeap_empty
  | call _ hcall ih => exact (effect_apply ih hcall).isHeap ih

/-! ## What calls keep -/

theorem IsListed.congr (h : s.IsListed c) (hchildren : ∀ q, s'.childrenOf q = s.childrenOf q)
    (hparent : s'.parent? c = s.parent? c) : s'.IsListed c := by
  intro p hp
  rw [hchildren]
  exact h p (hparent ▸ hp)

theorem IsListed.of_attached {cs : List Ref} (h : s.IsListed c) (hs' : Attached s p cs s') :
    s'.IsListed c := by
  intro q hq
  rw [(hs'.children q).mem_iff]
  rw [hs'.parent] at hq
  split at hq
  · next hc =>
    obtain rfl := Option.some.inj hq
    rw [if_pos rfl]
    exact List.mem_append_right _ hc
  · split
    · exact List.mem_append_left _ (h q hq)
    · exact h q hq

/-- A deletion takes one place from the deleted node, whose link is gone, and none from another. -/
theorem IsListed.of_detached {r : Ref} (h : s.IsListed c) (hs' : Detached s p r s') :
    s'.IsListed c := by
  intro q hq
  rw [hs'.parent] at hq
  split at hq
  · cases hq
  · next hne =>
    rw [hs'.children]
    split
    · next heq =>
      rw [heq] at hq
      exact (List.mem_erase_of_ne hne).2 (h p hq)
    · exact h q hq

/-- A node stays listed unless it is inserted at an index that fits no machine word. -/
theorem Effect.isListed {op : Surgery} {result : Except SurgeryError Unit}
    (h : Effect s op s' result) (hs : s.IsHeap) (hplaced : ¬op.Misplaces c) (hc : s.IsListed c) :
    s'.IsListed c := by
  cases h with
  | @create role kind text parent _ _ _ hparent h =>
    have hpush : (s.push (fresh role kind text)).IsListed c :=
      hc.congr (childrenOf_push_fresh s role kind text) (parent?_push_fresh s role kind text c)
    exact (hpush.of_attached (attached_planted s role kind text hs hparent)).of_attached h
  | attach _ _ h => exact hc.of_attached h
  | @misplace p d index _ hd hindex =>
    have hne : c ≠ d := fun heq => hplaced ⟨p, index, heq ▸ rfl, hindex⟩
    refine hc.congr (fun q => childrenOf_setParent s d q _) ?_
    rw [parent?_setParent s c hd, if_neg hne]
  | stay _ => exact hc
  | detach _ _ h => exact hc.of_detached h
  | refuse _ _ => exact hc

/-- A node that was never inserted at such an index is listed. -/
theorem Built.isListed {ops : List Surgery} (h : Built ops s)
    (hplaced : ∀ op ∈ ops, ¬op.Misplaces c) : s.IsListed c := by
  induction h with
  | nothing =>
    intro p hp
    exact absurd (lt_size_of_parent? hp) (Nat.not_lt_zero c)
  | call hbuilt hcall ih =>
    obtain ⟨hop, hops⟩ := List.forall_mem_cons.1 hplaced
    exact (effect_apply hbuilt.isHeap hcall).isListed hbuilt.isHeap hop (ih hops)

/-! ## Deleting -/

/-- Deleting a node that is listed leaves it without a parent. -/
theorem IsHeap.delete_of_isListed (h : s.IsHeap) (hlt : c < s.size) (hc : s.IsListed c) :
    ∃ s', s.apply (.delete c) = (s', .ok ()) ∧ s'.parent? c = none := by
  have heffect := @effect_apply s h (.delete c) hlt
  generalize hresult : s.apply (.delete c) = result at heffect
  obtain ⟨s', result⟩ := result
  cases heffect with
  | attach _ hsite _ => cases hsite
  | stay hr => exact ⟨_, rfl, hr⟩
  | detach _ _ h => exact ⟨s', rfl, by rw [h.parent, if_pos rfl]⟩
  | refuse hr hmem => exact absurd (hc _ hr) hmem

/-- In every store that calls build, a node that was never inserted at an index that fits no machine
word is listed by its parent, and deleting it succeeds and leaves it without a parent. A deletion
fails only where the parent does not list the node, and then changes nothing. -/
theorem delete_built {ops : List Surgery} (h : Built ops s) :
    (∀ c, (∀ op ∈ ops, ¬op.Misplaces c) → (∀ p, s.parent? c = some p → c ∈ s.childrenOf p) ∧
      (c < s.size → ∃ s', s.apply (.delete c) = (s', .ok ()) ∧ s'.parent? c = none)) ∧
    (∀ c < s.size, ∀ p, s.parent? c = some p → c ∉ s.childrenOf p →
      s.apply (.delete c) = (s, .error .notListed)) := by
  refine ⟨fun c hplaced => ?_, fun c hc p hp hmem => ?_⟩
  · have hlisted := h.isListed hplaced
    exact ⟨hlisted, fun hc => h.isHeap.delete_of_isListed hc hlisted⟩
  · rw [apply, if_pos (h.isHeap.isNode c hc), delete_of_parent h.isHeap hp, if_neg hmem]
    rfl

/-- A name that its method lists twice, a method that is below its own name, and an insertion of the
method that fails; the last call comes first. -/
def tangle : List Surgery :=
  [.insert 1 Surgery.beyond (some 0), .add 1 (some 0), .attach 0 [some 1, none],
    .create .token (some (.token .identifier)) (some "f") (some 0) [],
    .create .construct (some (.construct .method)) none none []]

theorem built_tangle : Built tangle (tangle.foldr (fun op s => (s.apply op).1) empty) := by
  refine .call (.call (.call (.call (.call .nothing ?_) ?_) ?_) ?_) ?_
  · exact ⟨rfl, by simp, by simp⟩
  · exact ⟨rfl, by decide, by simp⟩
  · exact ⟨by decide, by decide⟩
  · exact ⟨by decide, by decide⟩
  · exact ⟨by decide, by decide⟩

/-- The name is in its list, twice, and can be deleted. -/
theorem delete_built_tangle : ∃ s, Built tangle s ∧ (∀ op ∈ tangle, ¬op.Misplaces 1) ∧
    s.childrenOf 0 = [1, 1] ∧ ∃ s', s.apply (.delete 1) = (s', .ok ()) ∧ s'.parent? 1 = none := by
  have hplaced : ∀ op ∈ tangle, ¬op.Misplaces 1 := by
    rintro op hop ⟨p, index, rfl, -⟩
    simp [tangle] at hop
  have hdelete := ((delete_built built_tangle).1 1 hplaced).2 (by decide)
  exact ⟨_, built_tangle, hplaced, by decide, hdelete⟩

/-- A node that was inserted at an index that fits no machine word has a parent that does not list
it and cannot be deleted. -/
theorem delete_built_large_index :
    ∃ ops s, ops = [.insert 0 Surgery.beyond (some 1), .create .token none none none [],
        .create .construct none none none []] ∧
      Built ops s ∧ s.parent? 1 = some 0 ∧ 1 ∉ s.childrenOf 0 ∧
      s.apply (.delete 1) = (s, .error .notListed) := by
  refine ⟨_, _, rfl, .call (.call (.call .nothing ?_) ?_) ?_, ?_, ?_, ?_⟩
  · exact ⟨rfl, by simp, by simp⟩
  · exact ⟨rfl, by simp, by simp⟩
  · exact ⟨by decide, by decide⟩
  · decide
  · decide
  · decide

end Store

end JavaText
