import JavaText.Proofs.Store.Forest
import Mathlib.Data.List.Perm.Basic
import Mathlib.Data.List.ReduceOption

/-!
# What a call does to the links

The methods of nodes are called on nodes that are there (`Surgery.IsCall`), in a store in which all
objects are nodes with a list of children (`Store.IsHeap`). A call has one of few effects on the
links (`Store.Effect`): nodes are attached, a node is detached, or nothing changes. Two calls fail.
An insertion sets the parent link before it looks at the index, so an index that fits no machine
word leaves a link without an entry in a list; and a node that its parent does not list cannot be
deleted. `Store.effect_apply` is the step lemma from which the invariants of whole runs follow.
-/

namespace JavaText

namespace Surgery

/-- A call of a method of nodes, or of what creates one, in a store of the given size. All nodes
that it names are there. -/
def IsCall (size : Nat) : Surgery → Prop
  | .create role _ _ parent children =>
    role.isNode ∧ (∀ p ∈ parent, p < size) ∧ ∀ c ∈ children.reduceOption, c < size
  | .add p c | .insert p _ c => p < size ∧ ∀ q ∈ c, q < size
  | .addAll p cs | .attach p cs => p < size ∧ ∀ c ∈ cs.reduceOption, c < size
  | .delete r => r < size
  | .place _ | .setParent .. | .setKind .. | .setText .. => False

/-- The nodes that an operation attaches. -/
def attached : Surgery → List Ref
  | .create _ _ _ _ cs | .addAll _ cs | .attach _ cs => cs.reduceOption
  | .add _ c | .insert _ _ c => c.toList
  | _ => []

/-- The node that an operation attaches nodes to or, if that is a new one, the parent that the new
node is given. -/
def site? : Surgery → Option Ref
  | .create _ _ _ parent _ => parent
  | .add p _ | .addAll p _ | .attach p _ | .insert p _ _ => some p
  | _ => none

/-- An insertion of a node at an index that fits no machine word. -/
def Misplaces (op : Surgery) (c : Ref) : Prop :=
  ∃ p index, op = .insert p index (some c) ∧ Store.isIndex index = false

/-- The least index that fits no machine word. -/
def beyond : Int := 9223372036854775808

end Surgery

namespace Store

variable {s s' : Store} {p r : Ref} {cs : List Ref}

/-! ## Stores in which all objects are nodes -/

/-- All objects are nodes with a list of children, and parent links stay within the store. -/
structure IsHeap (s : Store) : Prop where
  isNode : ∀ q < s.size, s.isNode q = true
  hasList : ∀ q < s.size, s.hasList q = true
  parent_lt : ∀ q p, s.parent? q = some p → p < s.size

/-- Whether an object is a node is part of its label. -/
theorem isNode_eq (s : Store) (q : Ref) : s.isNode q = (s.label q).1.isNode := rfl

/-- A change of links within the store leaves nodes. -/
theorem IsHeap.relink (h : s.IsHeap) (hsize : s'.size = s.size)
    (hlabel : ∀ q, s'.label q = s.label q) (hlist : ∀ q, s'.hasList q = s.hasList q)
    (hparent : ∀ q p, s'.parent? q = some p → p < s.size) : s'.IsHeap where
  isNode q hq := by
    rw [isNode_eq, hlabel]
    exact h.isNode q (hsize ▸ hq)
  hasList q hq := by
    rw [hlist]
    exact h.hasList q (hsize ▸ hq)
  parent_lt q p hq := by
    rw [hsize]
    exact hparent q p hq

/-- There is nothing in the empty store that could be no node. -/
theorem isHeap_empty : empty.IsHeap where
  isNode _ hq := absurd hq (Nat.not_lt_zero _)
  hasList _ hq := absurd hq (Nat.not_lt_zero _)
  parent_lt q _ h := absurd (lt_size_of_parent? h) (Nat.not_lt_zero q)

/-! ## Attaching -/

/-- What is not there is passed over when nodes are attached. -/
theorem addChildren_reduceOption : ∀ (cs : List (Option Ref)) (s : Store),
    s.addChildren p cs = s.addChildren p (cs.reduceOption.map some)
  | [], _ => rfl
  | none :: cs, s => by
    rw [List.reduceOption_cons_of_none, addChildren, addChild, addChildren_reduceOption cs s]
  | some c :: cs, s => by
    rw [List.reduceOption_cons_of_some, List.map_cons, addChildren, addChildren,
      addChildren_reduceOption cs]

namespace Attached

/-- Attaching no nodes leaves a store as it is. -/
theorem refl (s : Store) (p : Ref) : Attached s p [] s where
  size := rfl
  label _ := rfl
  hasList _ := rfl
  children q := by
    rw [List.append_nil, ite_self]
  parent q := by
    rw [if_neg List.not_mem_nil]

/-- Attaching nodes to a node of the store leaves all objects nodes. -/
theorem isHeap (h : Attached s p cs s') (hs : s.IsHeap) (hp : p < s.size) : s'.IsHeap := by
  refine hs.relink h.size h.label h.hasList fun q p' hq => ?_
  rw [h.parent] at hq
  split at hq
  · exact Option.some.inj hq ▸ hp
  · exact hs.parent_lt q p' hq

end Attached

/-- Attaching a list of nodes attaches those of them that are there. -/
theorem attached_addAll {cs : List (Option Ref)} (hp : s.hasList p)
    (hcs : ∀ c ∈ cs.reduceOption, c < s.size) :
    Attached s p cs.reduceOption (s.addChildren p cs) := by
  rw [addChildren_reduceOption]
  exact attached_addChildren hp hcs

/-- Adding a node attaches it, and adding none attaches none. -/
theorem attached_addChild {c : Option Ref} (hp : s.hasList p) (hc : ∀ q ∈ c, q < s.size) :
    Attached s p c.toList (s.addChild p c) := by
  cases c with
  | none => exact .refl s p
  | some c =>
    have h := @attached_addAll s p [some c] hp (by simpa using hc)
    simpa [addChildren] using h

/-- An insertion is never past the end of the list, however large the index is. -/
theorem position_le (length : Nat) (index : Int) : position length index ≤ length := by
  unfold position
  split <;> omega

/-- At an index that fits a machine word an insertion attaches the node like an addition, but for
the order of the list. -/
theorem attached_insertChild {index : Int} {c : Option Ref} (hp : s.hasList p)
    (hc : ∀ q ∈ c, q < s.size) (hindex : isIndex index) :
    (s.insertChild p index c).2 = .ok () ∧
      Attached s p c.toList (s.insertChild p index c).1 := by
  cases c with
  | none => exact ⟨rfl, .refl s p⟩
  | some c =>
    have hlist : (s.setParent c (some p)).hasList p = true := by rwa [hasList_setParent]
    simp only [insertChild, hindex, if_true]
    refine ⟨trivial, ?_, fun q => ?_, fun q => ?_, fun q => ?_, fun q => ?_⟩
    · simp
    · simp
    · simp
    · rw [childrenOf_modifyChildren _ _ _ hlist]
      simp only [childrenOf_setParent, Option.toList_some]
      split
      · next h =>
        -- the position matters to the order of the list only
        rw [h]
        exact (List.perm_insertIdx _ _ (position_le _ _)).trans
          (List.perm_append_singleton c _).symm
      · exact .refl _
    · rw [parent?_modifyChildren, parent?_setParent _ _ (hc c rfl)]
      simp

/-! ## Creating -/

section Planted

variable (s) (role : Role) (kind : Option Kind) (text : Option Text)

/-- A new node, attached to a parent and without children. -/
def planted (s : Store) (role : Role) (kind : Option Kind) (text : Option Text)
    (parent : Option Ref) : Store :=
  match parent with
  | none => s.push (fresh role kind text)
  | some p => (s.push (fresh role kind text)).addChild p (some s.size)

/-- The new node has a list, and the other nodes have one if they had one before. -/
theorem hasList_push (q : Ref) :
    (s.push (fresh role kind text)).hasList q = (decide (q = s.size) || s.hasList q) := by
  by_cases hq : q = s.size
  · rw [hq, hasList_push_fresh]
    simp
  · rw [hasList, node?_push, if_neg hq]
    simp [hq, hasList]

/-- A new node with a parent is attached to it. -/
theorem attached_planted (h : s.IsHeap) {parent : Option Ref} (hparent : ∀ p ∈ parent, p < s.size) :
    Attached (s.push (fresh role kind text)) (parent.getD s.size)
      (parent.map fun _ => s.size).toList (s.planted role kind text parent) := by
  cases parent with
  | none => exact .refl _ _
  | some p =>
    refine attached_addChild ?_ ?_
    · rw [hasList_push, Option.getD_some, h.hasList p (hparent p rfl), Bool.or_true]
    · simp

end Planted

section PlantedLinks

variable {role : Role} {kind : Option Kind} {text : Option Text} {parent : Option Ref}

/-- A new node has the parent that it is given. -/
theorem parent?_planted (h : s.IsHeap) (hparent : ∀ p ∈ parent, p < s.size) (q : Ref) :
    (s.planted role kind text parent).parent? q = if q = s.size then parent else s.parent? q := by
  rw [(attached_planted s role kind text h hparent).parent, parent?_push_fresh]
  cases parent with
  | some p => simp
  | none =>
    by_cases hq : q = s.size
    · rw [hq, parent?, node?_size]
      simp
    · simp [hq]

/-- A new node leaves all objects nodes. -/
theorem isHeap_push (h : s.IsHeap) (hrole : role.isNode) :
    (s.push (fresh role kind text)).IsHeap where
  isNode q hq := by
    rw [size_push] at hq
    by_cases heq : q = s.size
    · rw [heq, isNode, Store.role, node?_push, if_pos rfl]
      exact hrole
    · rw [isNode, Store.role, node?_push, if_neg heq]
      exact h.isNode q (by omega)
  hasList q hq := by
    rw [size_push] at hq
    rw [hasList_push]
    by_cases heq : q = s.size
    · simp [heq]
    · rw [h.hasList q (by omega), Bool.or_true]
  parent_lt q p hq := by
    rw [parent?_push_fresh] at hq
    rw [size_push]
    exact Nat.lt_succ_of_lt (h.parent_lt q p hq)

/-- So does a new node that is attached to its parent. -/
theorem isHeap_planted (h : s.IsHeap) (hrole : role.isNode) (hparent : ∀ p ∈ parent, p < s.size) :
    (s.planted role kind text parent).IsHeap := by
  refine (attached_planted s role kind text h hparent).isHeap (isHeap_push h hrole) ?_
  rw [size_push]
  cases parent with
  | none => exact Nat.lt_succ_self _
  | some p => exact Nat.lt_succ_of_lt (hparent p rfl)

theorem size_planted : (s.planted role kind text parent).size = s.size + 1 := by
  cases parent <;> simp [planted]

/-- To create a node on a parent that is one is to plant it and to attach the children to it. -/
theorem create_eq (h : s.IsHeap) (hparent : ∀ p ∈ parent, p < s.size) (cs : List (Option Ref)) :
    s.create role kind text parent cs =
      .ok ((s.planted role kind text parent).addChildren s.size cs) := by
  cases parent with
  | none => rfl
  | some p => rw [create, if_pos (h.isNode p (hparent p rfl)), planted]

end PlantedLinks

/-! ## Deleting -/

/-- The second store is the first with a node taken out of the children of its parent. -/
structure Detached (s : Store) (p r : Ref) (s' : Store) : Prop where
  size : s'.size = s.size
  label : ∀ q, s'.label q = s.label q
  hasList : ∀ q, s'.hasList q = s.hasList q
  children : ∀ q, s'.childrenOf q = if q = p then (s.childrenOf p).erase r else s.childrenOf q
  parent : ∀ q, s'.parent? q = if q = r then none else s.parent? q

theorem Detached.isHeap (h : Detached s p r s') (hs : s.IsHeap) : s'.IsHeap := by
  refine hs.relink h.size h.label h.hasList fun q p' hq => ?_
  rw [h.parent] at hq
  split at hq
  · cases hq
  · exact hs.parent_lt q p' hq

/-- A node that has a parent is deleted if the parent lists it, and not otherwise. -/
theorem delete_of_parent (h : s.IsHeap) (hp : s.parent? r = some p) :
    s.delete r = if r ∈ s.childrenOf p then .ok ((s.modifyChildren p (·.erase r)).setParent r none)
      else .error .notListed := by
  have hlist := h.hasList p (h.parent_lt r p hp)
  rw [delete, hp]
  unfold hasList at hlist
  unfold childrenOf
  cases hn : s.node? p with
  | none => simp [hn] at hlist
  | some n =>
    rw [hn, Option.bind_some] at hlist
    cases hc : n.children with
    | absent => simp [hc, Slot.get?] at hlist
    | empty => simp [hc, Slot.get?] at hlist
    | value cs => simp [hn, hc, Slot.get?]

/-- A deletion takes one entry out of one list and clears one link. -/
theorem detached_delete (h : s.IsHeap) (hp : s.parent? r = some p) :
    Detached s p r ((s.modifyChildren p (·.erase r)).setParent r none) where
  size := by simp
  label q := by simp
  hasList q := by simp
  children q := by
    rw [childrenOf_setParent, childrenOf_modifyChildren _ _ _ (h.hasList p (h.parent_lt r p hp))]
  parent q := by
    rw [parent?_setParent _ _ (by simpa using lt_size_of_parent? hp), parent?_modifyChildren]

/-! ## The effect of a call -/

/-- What a call does to a store, and how it ends. -/
inductive Effect (s : Store) : Surgery → Store → Except SurgeryError Unit → Prop
  /-- A new node takes in its children. -/
  | create {role : Role} {kind : Option Kind} {text : Option Text} {parent : Option Ref}
      {cs : List (Option Ref)} {s' : Store} (hrole : role.isNode)
      (hparent : ∀ p ∈ parent, p < s.size)
      (h : Attached (s.planted role kind text parent) s.size cs.reduceOption s') :
      Effect s (.create role kind text parent cs) s' (.ok ())
  /-- Nodes are attached to a node. -/
  | attach {op : Surgery} {p : Ref} {s' : Store} (hp : p < s.size) (hsite : op.site? = some p)
      (h : Attached s p op.attached s') : Effect s op s' (.ok ())
  /-- Only the link of a node is set. -/
  | misplace {p c : Ref} {index : Int} (hp : p < s.size) (hc : c < s.size)
      (hindex : isIndex index = false) :
      Effect s (.insert p index (some c)) (s.setParent c (some p)) (.error .indexTooLarge)
  /-- A node without a parent stays as it is. -/
  | stay {r : Ref} (hr : s.parent? r = none) : Effect s (.delete r) s (.ok ())
  /-- A node is taken out of the children of its parent. -/
  | detach {p r : Ref} {s' : Store} (hr : s.parent? r = some p) (hmem : r ∈ s.childrenOf p)
      (h : Detached s p r s') : Effect s (.delete r) s' (.ok ())
  /-- A node that its parent does not list stays as it is. -/
  | refuse {p r : Ref} (hr : s.parent? r = some p) (hmem : r ∉ s.childrenOf p) :
      Effect s (.delete r) s (.error .notListed)

/-- Every call has one of the effects. -/
theorem effect_apply (h : s.IsHeap) {op : Surgery} (hcall : op.IsCall s.size) :
    Effect s op (s.apply op).1 (s.apply op).2 := by
  cases op with
  | create role kind text parent cs =>
    obtain ⟨hrole, hparent, hcs⟩ := hcall
    rw [apply, create_eq h hparent, settle]
    refine .create hrole hparent (attached_addAll ?_ fun c hc => ?_)
    · exact (isHeap_planted h hrole hparent).hasList _
        (by rw [size_planted]; exact Nat.lt_succ_self _)
    · rw [size_planted]
      exact Nat.lt_succ_of_lt (hcs c hc)
  | add p c =>
    obtain ⟨hp, hc⟩ := hcall
    rw [apply, only, if_pos (h.isNode p hp)]
    exact .attach hp rfl (attached_addChild (h.hasList p hp) hc)
  | addAll p cs =>
    obtain ⟨hp, hcs⟩ := hcall
    rw [apply, only, if_pos (h.isNode p hp)]
    exact .attach hp rfl (attached_addAll (h.hasList p hp) hcs)
  | attach p cs =>
    obtain ⟨hp, hcs⟩ := hcall
    rw [apply, only, if_pos (h.isNode p hp)]
    exact .attach hp rfl (attached_addAll (h.hasList p hp) hcs)
  | insert p index c =>
    obtain ⟨hp, hc⟩ := hcall
    rw [apply, if_pos (h.isNode p hp)]
    cases hindex : isIndex index with
    | true =>
      obtain ⟨hok, hattached⟩ := attached_insertChild (h.hasList p hp) hc hindex
      rw [hok]
      exact .attach hp rfl hattached
    | false =>
      cases c with
      | none => exact .attach hp rfl (.refl s p)
      | some c =>
        simp only [insertChild, hindex, Bool.false_eq_true, if_false]
        exact .misplace hp (hc c rfl) hindex
  | delete r =>
    rw [apply, if_pos (h.isNode r hcall)]
    cases hr : s.parent? r with
    | none =>
      rw [delete, hr, settle]
      exact .stay hr
    | some p =>
      rw [delete_of_parent h hr]
      by_cases hmem : r ∈ s.childrenOf p
      · rw [if_pos hmem, settle]
        exact .detach hr hmem (detached_delete h hr)
      · rw [if_neg hmem, settle]
        exact .refuse hr hmem
  | place _ | setParent _ _ | setKind _ _ | setText _ _ => exact hcall.elim

namespace Effect

variable {op : Surgery} {result : Except SurgeryError Unit}

/-- After a call all objects are nodes still. -/
theorem isHeap (h : Effect s op s' result) (hs : s.IsHeap) : s'.IsHeap := by
  cases h with
  | create hrole hparent h =>
    exact h.isHeap (isHeap_planted hs hrole hparent)
      (by rw [size_planted]; exact Nat.lt_succ_self _)
  | attach hp _ h => exact h.isHeap hs hp
  | @misplace p c index hp hc _ =>
    refine hs.relink (by simp) (by simp) (by simp) fun q p' hq => ?_
    rw [parent?_setParent s q hc] at hq
    split at hq
    · exact Option.some.inj hq ▸ hp
    · exact hs.parent_lt q p' hq
  | stay _ => exact hs
  | detach _ _ h => exact h.isHeap hs
  | refuse _ _ => exact hs

end Effect

end Store

end JavaText
