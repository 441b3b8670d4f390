import JavaText.Store.Surgery
import JavaText.Store.Walk
import Mathlib.Data.List.Nodup
import Mathlib.Data.List.Perm.Subperm
import Mathlib.Logic.Relation

/-!
# Forests of linked nodes

In a forest the lists of children and the parent links agree: a node is listed once by the node that
its parent link leads to and by no other, and no way along parent links comes back to where it began
(`Store.IsForest`).

An operation is known by its effect on the views of a store: what is in a node apart from its links
(`Store.label`), the children that it lists and its parent. A new node without links leaves all of
them as they are on the other nodes, and attaching children changes one list and their parent links
(`Store.Attached`). Nodes without a parent may be attached, each once, to any node that is neither
one of them nor below one, and nothing else may (`Store.IsForest.attached_iff`); a node that is
created with such children keeps a forest a forest (`Store.IsForest.create`).
-/

namespace JavaText

namespace Store

variable {s : Store}

/-! ## Nodes of a changed store -/

@[simp] theorem size_push (s : Store) (n : Node) : (s.push n).size = s.size + 1 :=
  Array.size_push n

@[simp] theorem size_modify (s : Store) (r : Ref) (f : Node → Node) :
    (s.modify r f).size = s.size :=
  Array.size_modify

/-- A new node takes the first free place. -/
theorem node?_push (s : Store) (n : Node) (q : Ref) :
    (s.push n).node? q = if q = s.size then some n else s.node? q :=
  Array.getElem?_push

theorem node?_modify (s : Store) (r : Ref) (f : Node → Node) (q : Ref) :
    (s.modify r f).node? q = if r = q then (s.node? q).map f else s.node? q :=
  Array.getElem?_modify

/-- Two stores with the same nodes at all places are one. -/
theorem ext_node? {s' : Store} (h : ∀ q, s.node? q = s'.node? q) : s = s' := by
  cases s
  cases s'
  exact congrArg Store.mk (Array.ext_getElem? h)

/-- There is no node past the last. -/
theorem node?_size (s : Store) : s.node? s.size = none :=
  Array.getElem?_eq_none (Nat.le_refl _)

theorem exists_node? {q : Ref} (h : q < s.size) : ∃ n, s.node? q = some n :=
  ⟨_, Array.getElem?_eq_getElem h⟩

/-- A node that has a parent is in the store. -/
theorem lt_size_of_parent? {c p : Ref} (h : s.parent? c = some p) : c < s.size := by
  rcases Nat.lt_or_ge c s.size with hlt | hge
  · exact hlt
  · have hnone : s.node? c = none := Array.getElem?_eq_none hge
    simp [parent?, hnone] at h

/-- A node that lists another one is in the store. -/
theorem lt_size_of_mem_childrenOf {c p : Ref} (h : c ∈ s.childrenOf p) : p < s.size := by
  rcases Nat.lt_or_ge p s.size with hlt | hge
  · exact hlt
  · have hnone : s.node? p = none := Array.getElem?_eq_none hge
    simp [childrenOf, hnone] at h

/-- A list of nodes that holds none of them twice is no longer than their numbers allow. -/
theorem length_le_of_lt {rs : List Ref} {n : Nat} (hnodup : rs.Nodup) (hlt : ∀ r ∈ rs, r < n) :
    rs.length ≤ n := by
  have hsub : rs ⊆ List.range n := fun r hr => List.mem_range.2 (hlt r hr)
  have hle := (List.subperm_of_subset hnodup hsub).length_le
  rwa [List.length_range] at hle

/-- What is in a node apart from its links. -/
def label (s : Store) (r : Ref) : Role × Option Kind × Option Text :=
  (s.role r, s.kind? r, s.text? r)

/-- Whether a node has a list of children. -/
def hasList (s : Store) (r : Ref) : Bool :=
  ((s.node? r).bind (·.children.get?)).isSome

section Modify

variable {r : Ref} {f : Node → Node} {q : Ref}

/-- A change that spares role, kind and text leaves the labels. -/
theorem label_modify (h : ∀ n, (f n).role = n.role ∧ (f n).kind = n.kind ∧ (f n).text = n.text) :
    (s.modify r f).label q = s.label q := by
  by_cases hq : r = q
  · simp only [label, role, kind?, text?, node?_modify, if_pos hq]
    cases s.node? q with
    | none => rfl
    | some n => simp [h n]
  · simp only [label, role, kind?, text?, node?_modify, if_neg hq]

/-- A change that spares the parent link leaves the parents. -/
theorem parent?_modify (h : ∀ n, (f n).parent = n.parent) :
    (s.modify r f).parent? q = s.parent? q := by
  unfold parent?
  rw [node?_modify]
  split
  · cases s.node? q with
    | none => rfl
    | some n => simp [h n]
  · rfl

/-- A change that spares the children leaves the lists. -/
theorem children_modify (h : ∀ n, (f n).children = n.children) :
    ((s.modify r f).node? q).bind (·.children.get?) = (s.node? q).bind (·.children.get?) := by
  rw [node?_modify]
  split
  · cases s.node? q with
    | none => rfl
    | some n => simp [h n]
  · rfl

end Modify

/-! ## Setting links -/

section Links

variable (s) (r q : Ref)

@[simp] theorem size_setParent (p : Option Ref) : (s.setParent r p).size = s.size :=
  size_modify ..

@[simp] theorem label_setParent (p : Option Ref) : (s.setParent r p).label q = s.label q :=
  label_modify fun _ => ⟨rfl, rfl, rfl⟩

/-- Setting a parent link changes no list. -/
@[simp] theorem childrenOf_setParent (p : Option Ref) :
    (s.setParent r p).childrenOf q = s.childrenOf q := by
  rw [childrenOf, setParent, children_modify (by simp), childrenOf]

/-- Nor does it give a node a list, or take one away. -/
@[simp] theorem hasList_setParent (p : Option Ref) :
    (s.setParent r p).hasList q = s.hasList q := by
  rw [hasList, setParent, children_modify (by simp), hasList]

/-- It changes the parent of one node of the store. -/
theorem parent?_setParent {r : Ref} (hr : r < s.size) (p : Option Ref) :
    (s.setParent r p).parent? q = if q = r then p else s.parent? q := by
  unfold parent? setParent
  rw [node?_modify]
  by_cases hq : q = r
  · subst hq
    obtain ⟨n, hn⟩ := exists_node? hr
    simp [hn]
  · rw [if_neg (Ne.symm hq), if_neg hq]

variable (f : List Ref → List Ref)

@[simp] theorem size_modifyChildren : (s.modifyChildren r f).size = s.size :=
  size_modify ..

@[simp] theorem label_modifyChildren : (s.modifyChildren r f).label q = s.label q :=
  label_modify fun n => by split <;> exact ⟨rfl, rfl, rfl⟩

/-- Changing a list changes no parent link. -/
@[simp] theorem parent?_modifyChildren : (s.modifyChildren r f).parent? q = s.parent? q :=
  parent?_modify fun n => by split <;> rfl

/-- A changed list is still a list, and where there is none there is none to change. -/
@[simp] theorem hasList_modifyChildren : (s.modifyChildren r f).hasList q = s.hasList q := by
  unfold hasList modifyChildren
  rw [node?_modify]
  split
  · cases s.node? q with
    | none => rfl
    | some n =>
      rw [Option.map_some, Option.bind_some, Option.bind_some]
      cases hc : n.children <;> simp [hc, Slot.get?]
  · rfl

/-- It changes the children of one node that has a list. -/
theorem childrenOf_modifyChildren {r : Ref} (hr : s.hasList r) :
    (s.modifyChildren r f).childrenOf q = if q = r then f (s.childrenOf r) else s.childrenOf q := by
  unfold childrenOf modifyChildren
  rw [node?_modify]
  by_cases hq : q = r
  · subst hq
    unfold hasList at hr
    cases hn : s.node? q with
    | none => simp [hn] at hr
    | some n =>
      rw [hn, Option.bind_some] at hr
      cases hc : n.children <;> simp_all [Slot.get?]
  · rw [if_neg (Ne.symm hq), if_neg hq]

/-- A list and a link are different parts of a node, so it does not matter which is set first. -/
theorem modifyChildren_setParent (p : Ref) (parent : Option Ref) :
    (s.setParent r parent).modifyChildren p f = (s.modifyChildren p f).setParent r parent := by
  refine ext_node? fun q => ?_
  simp only [setParent, modifyChildren, node?_modify]
  cases s.node? q with
  | none => simp
  | some n =>
    by_cases hr : r = q <;> by_cases hp : p = q <;> cases h : n.children <;> simp [hr, hp, h]

end Links

/-! ## Attaching children -/

section AddChild

variable (s) (p q : Ref)

@[simp] theorem size_addChild (c : Option Ref) : (s.addChild p c).size = s.size := by
  cases c <;> simp [addChild]

@[simp] theorem label_addChild (c : Option Ref) : (s.addChild p c).label q = s.label q := by
  cases c <;> simp [addChild]

@[simp] theorem hasList_addChild (c : Option Ref) : (s.addChild p c).hasList q = s.hasList q := by
  cases c <;> simp [addChild]

/-- A node that is added becomes the last child. -/
theorem childrenOf_addChild {p : Ref} (hp : s.hasList p) (c : Ref) :
    (s.addChild p (some c)).childrenOf q =
      if q = p then s.childrenOf p ++ [c] else s.childrenOf q := by
  rw [addChild, childrenOf_setParent, childrenOf_modifyChildren s q _ hp]

/-- It gets a parent, and no other node does. -/
theorem parent?_addChild {c : Ref} (hc : c < s.size) :
    (s.addChild p (some c)).parent? q = if q = c then some p else s.parent? q := by
  rw [addChild, parent?_setParent _ _ (by simpa using hc), parent?_modifyChildren]

@[simp] theorem size_addChildren : ∀ (cs : List (Option Ref)) (s : Store),
    (s.addChildren p cs).size = s.size
  | [], s => rfl
  | c :: cs, s => by rw [addChildren, size_addChildren cs, size_addChild]

@[simp] theorem label_addChildren : ∀ (cs : List (Option Ref)) (s : Store),
    (s.addChildren p cs).label q = s.label q
  | [], s => rfl
  | c :: cs, s => by rw [addChildren, label_addChildren cs, label_addChild]

@[simp] theorem hasList_addChildren : ∀ (cs : List (Option Ref)) (s : Store),
    (s.addChildren p cs).hasList q = s.hasList q
  | [], s => rfl
  | c :: cs, s => by rw [addChildren, hasList_addChildren cs, hasList_addChild]

/-- Nodes that are added become the last children, in order. -/
theorem childrenOf_addChildren {p : Ref} : ∀ (cs : List Ref) (s : Store), s.hasList p →
    (s.addChildren p (cs.map some)).childrenOf q =
      if q = p then s.childrenOf p ++ cs else s.childrenOf q
  | [], s, _ => by
    rw [List.append_nil]
    split
    · next h => rw [h]; rfl
    · rfl
  | c :: cs, s, hp => by
    have ih := childrenOf_addChildren cs (s.addChild p (some c)) (by rwa [hasList_addChild])
    rw [List.map_cons, addChildren, ih, childrenOf_addChild s _ hp, childrenOf_addChild s _ hp,
      if_pos rfl]
    split
    · rw [List.append_assoc, List.singleton_append]
    · rfl

/-- They get a parent, and no other node does. -/
theorem parent?_addChildren : ∀ (cs : List Ref) (s : Store), (∀ c ∈ cs, c < s.size) →
    (s.addChildren p (cs.map some)).parent? q = if q ∈ cs then some p else s.parent? q
  | [], s, _ => by simp [addChildren]
  | c :: cs, s, hcs => by
    obtain ⟨hc, hcs⟩ := List.forall_mem_cons.1 hcs
    have ih := parent?_addChildren cs (s.addChild p (some c)) (by simpa using hcs)
    rw [List.map_cons, addChildren, ih, parent?_addChild s p q hc]
    by_cases hq : q = c <;> simp [hq]

end AddChild

/-- The second store is the first with some nodes attached to a node: the node lists them besides
the children that it had, and is the parent of each. -/
structure Attached (s : Store) (p : Ref) (cs : List Ref) (s' : Store) : Prop where
  size : s'.size = s.size
  label : ∀ q, s'.label q = s.label q
  hasList : ∀ q, s'.hasList q = s.hasList q
  children : ∀ q, List.Perm (s'.childrenOf q)
    (if q = p then s.childrenOf q ++ cs else s.childrenOf q)
  parent : ∀ q, s'.parent? q = if q ∈ cs then some p else s.parent? q

namespace Attached

variable {p : Ref} {cs : List Ref} {s' : Store}

/-- How often a node is listed once nodes have been attached. -/
theorem count (h : Attached s p cs s') (q c : Ref) :
    (s'.childrenOf q).count c = (s.childrenOf q).count c + if q = p then cs.count c else 0 := by
  rw [(h.children q).count_eq]
  split
  · rw [List.count_append]
  · rfl

end Attached

/-- Adding nodes of the store to a node with a list attaches them. -/
theorem attached_addChildren {p : Ref} {cs : List Ref} (hp : s.hasList p)
    (hcs : ∀ c ∈ cs, c < s.size) : Attached s p cs (s.addChildren p (cs.map some)) where
  size := size_addChildren ..
  label q := label_addChildren ..
  hasList q := hasList_addChildren ..
  children q := by
    rw [childrenOf_addChildren q cs s hp]
    split
    · next h => rw [h]
    · rfl
  parent q := parent?_addChildren p q cs s hcs

/-! ## New nodes -/

section Fresh

variable (s) (role : Role) (kind : Option Kind) (text : Option Text) (q : Ref)

/-- A new node lists no children, so no list changes. -/
theorem childrenOf_push_fresh :
    (s.push (fresh role kind text)).childrenOf q = s.childrenOf q := by
  unfold childrenOf
  rw [node?_push]
  split
  · next h =>
    rw [h, node?_size]
    rfl
  · rfl

/-- A new node has no parent, so no parent changes. -/
theorem parent?_push_fresh : (s.push (fresh role kind text)).parent? q = s.parent? q := by
  unfold parent?
  rw [node?_push]
  split
  · next h =>
    rw [h, node?_size]
    rfl
  · rfl

/-- A new node has a list, which is empty. -/
theorem hasList_push_fresh : (s.push (fresh role kind text)).hasList s.size = true := by
  rw [hasList, node?_push, if_pos rfl]
  rfl

end Fresh

/-! ## Forests -/

/-- The parent link of a node leads to another one. -/
def Up (s : Store) (c p : Ref) : Prop :=
  s.parent? c = some p

/-- Lists of children and parent links agree, and there is no way round along the links. -/
structure IsForest (s : Store) : Prop where
  count : ∀ p c, (s.childrenOf p).count c = if s.parent? c = some p then 1 else 0
  acyclic : ∀ r, ¬Relation.TransGen s.Up r r

/-- The empty store is a forest. -/
theorem isForest_empty : empty.IsForest := by
  have hparent : ∀ c, empty.parent? c = none := fun c => by simp [parent?, node?, empty]
  refine ⟨fun p c => ?_, fun r h => ?_⟩
  · rw [hparent]
    simp [childrenOf, node?, empty]
  · obtain ⟨p, hup, -⟩ := Relation.TransGen.head'_iff.1 h
    rw [Up, hparent] at hup
    cases hup

namespace IsForest

/-- Only the lists and the parent links decide whether a store is a forest. -/
theorem congr {s' : Store} (h : s.IsForest) (hchildren : ∀ q, s'.childrenOf q = s.childrenOf q)
    (hparent : ∀ q, s'.parent? q = s.parent? q) : s'.IsForest := by
  have hup : s'.Up = s.Up := by
    funext c p
    rw [Up, Up, hparent]
  refine ⟨fun p c => ?_, fun r => ?_⟩
  · rw [hchildren, hparent, h.count]
  · rw [hup]
    exact h.acyclic r

/-- The node that lists another one is its parent. -/
theorem mem_iff (h : s.IsForest) {p c : Ref} : c ∈ s.childrenOf p ↔ s.parent? c = some p := by
  rw [← List.count_pos_iff, h.count]
  split <;> simp_all

/-- More links to one node make no way round if there was no way back along them. -/
theorem transGen_addLinks {s' : Store} {p : Ref} {cs : List Ref}
    (hup : ∀ a b, s'.Up a b → s.Up a b ∨ (a ∈ cs ∧ b = p))
    (hback : ∀ c ∈ cs, ¬Relation.ReflTransGen s.Up p c) {a b : Ref}
    (h : Relation.TransGen s'.Up a b) :
    Relation.TransGen s.Up a b ∨
      ((∃ c ∈ cs, Relation.ReflTransGen s.Up a c) ∧ Relation.ReflTransGen s.Up p b) := by
  induction h with
  | single hab =>
    rcases hup _ _ hab with hab | ⟨ha, rfl⟩
    · exact Or.inl (.single hab)
    · exact Or.inr ⟨⟨_, ha, .refl⟩, .refl⟩
  | tail _ hbd ih =>
    rcases hup _ _ hbd with hbd | ⟨hb, rfl⟩
    · rcases ih with hab | ⟨hac, hpb⟩
      · exact Or.inl (hab.tail hbd)
      · exact Or.inr ⟨hac, hpb.tail hbd⟩
    · rcases ih with hab | ⟨-, hpb⟩
      · exact Or.inr ⟨⟨_, hb, hab.to_reflTransGen⟩, .refl⟩
      · exact absurd hpb (hback _ hb)

/-- Nodes without a parent may be attached where none of them is above, each once. -/
theorem of_attached {s' : Store} {p : Ref} {cs : List Ref} (h : s.IsForest)
    (hs' : Attached s p cs s') (hnodup : cs.Nodup)
    (hcs : ∀ c ∈ cs, s.parent? c = none ∧ ¬Relation.ReflTransGen s.Up p c) : s'.IsForest := by
  refine ⟨fun q c => ?_, fun r hround => ?_⟩
  · rw [hs'.count, h.count, hs'.parent]
    by_cases hc : c ∈ cs
    · rw [if_pos hc, (hcs c hc).1, List.count_eq_one_of_mem hnodup hc]
      simp [eq_comm]
    · rw [if_neg hc, List.count_eq_zero_of_not_mem hc]
      simp
  · have hup : ∀ a b, s'.Up a b → s.Up a b ∨ (a ∈ cs ∧ b = p) := by
      intro a b hab
      rw [Up, hs'.parent] at hab
      split at hab
      · next ha => exact Or.inr ⟨ha, (Option.some.inj hab).symm⟩
      · exact Or.inl hab
    rcases transGen_addLinks hup (fun c hc => (hcs c hc).2) hround with hround | ⟨⟨c, hc, hrc⟩, hpr⟩
    · exact h.acyclic r hround
    · exact (hcs c hc).2 (hpr.trans hrc)

/-- Nothing but nodes without a parent can have been attached, each once and where it is not above.
The links that lead up from the node are there as before, since none starts at such a node. -/
theorem of_isForest_attached {s' : Store} {p : Ref} {cs : List Ref} (h : s.IsForest)
    (hs' : Attached s p cs s') (h' : s'.IsForest) :
    cs.Nodup ∧ ∀ c ∈ cs, s.parent? c = none ∧ ¬Relation.ReflTransGen s.Up p c := by
  have hcount : ∀ c ∈ cs, ∀ q, (s'.childrenOf q).count c = if p = q then 1 else 0 := by
    intro c hc q
    rw [h'.count, hs'.parent, if_pos hc]
    simp
  have hnodup : cs.Nodup := by
    refine List.nodup_iff_count_le_one.2 fun c => ?_
    by_cases hc : c ∈ cs
    · have hp := hcount c hc p
      rw [hs'.count, if_pos rfl, if_pos rfl] at hp
      omega
    · rw [List.count_eq_zero_of_not_mem hc]
      exact Nat.zero_le 1
  have hfree : ∀ c ∈ cs, s.parent? c = none := by
    intro c hc
    cases hq : s.parent? c with
    | none => rfl
    | some q =>
      have hold := h.count q c
      have hnew := hcount c hc q
      rw [hs'.count, hold, hq, if_pos rfl] at hnew
      by_cases hpq : p = q
      · rw [if_pos hpq.symm, List.count_eq_one_of_mem hnodup hc, if_pos hpq] at hnew
        omega
      · rw [if_neg (Ne.symm hpq), if_neg hpq] at hnew
        omega
  refine ⟨hnodup, fun c hc => ⟨hfree c hc, fun hback => ?_⟩⟩
  have hup : ∀ a b, s.Up a b → s'.Up a b := by
    intro a b hab
    have ha : a ∉ cs := fun ha => by
      rw [Up, hfree a ha] at hab
      cases hab
    rw [Up, hs'.parent, if_neg ha]
    exact hab
  have hlink : s'.Up c p := by rw [Up, hs'.parent, if_pos hc]
  exact h'.acyclic p (.tail' (Relation.ReflTransGen.mono hup _ _ hback) hlink)

/-- When attaching nodes leaves a forest. -/
theorem attached_iff {s' : Store} {p : Ref} {cs : List Ref} (h : s.IsForest)
    (hs' : Attached s p cs s') : s'.IsForest ↔
      cs.Nodup ∧ ∀ c ∈ cs, s.parent? c = none ∧ ¬Relation.ReflTransGen s.Up p c :=
  ⟨h.of_isForest_attached hs', fun hcs => h.of_attached hs' hcs.1 hcs.2⟩

/-- There is no way up from a node without a parent. -/
theorem not_reflTransGen {p c : Ref} (hp : s.parent? p = none) (hne : p ≠ c) :
    ¬Relation.ReflTransGen s.Up p c := by
  intro hback
  rcases Relation.ReflTransGen.cases_head hback with heq | ⟨q, hup, -⟩
  · exact hne heq
  · cases hp.symm.trans hup

/-- A new node may have nodes without a parent as its children. -/
theorem create (h : s.IsForest) (role : Role) (kind : Option Kind) (text : Option Text)
    {cs : List Ref} (hnodup : cs.Nodup) (hcs : ∀ c ∈ cs, c < s.size ∧ s.parent? c = none) :
    ∃ s', s.create role kind text none (cs.map some) = .ok s' ∧ s'.IsForest := by
  have hforest : (s.push (fresh role kind text)).IsForest :=
    h.congr (childrenOf_push_fresh s _ _ _) (parent?_push_fresh s _ _ _)
  have hroot : (s.push (fresh role kind text)).parent? s.size = none := by
    rw [parent?_push_fresh, parent?, node?_size]
    rfl
  have hattached := attached_addChildren (hasList_push_fresh s role kind text) fun c hc => by
    rw [size_push]
    exact Nat.lt_succ_of_lt (hcs c hc).1
  refine ⟨_, rfl, hforest.of_attached hattached hnodup fun c hc => ⟨?_, ?_⟩⟩
  · rw [parent?_push_fresh]
    exact (hcs c hc).2
  · exact not_reflTransGen hroot (Nat.ne_of_gt (hcs c hc).1)

end IsForest

end Store

end JavaText
