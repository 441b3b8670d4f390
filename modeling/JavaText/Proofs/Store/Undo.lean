import JavaText.Proofs.Store.Surgery

/-!
# Attaching and deleting undo each other

An insertion and a deletion change two things in a store: the list of one node and the parent link
of another (`Store.relink`). A second change in the same two places gives the first store back if it
brings back the list and the link (`Store.relink_relink`). Whatever the index of an insertion stands
for, the deletion looks for the node in the list, and in a forest a node that has no parent is in no
list, so the deletion finds the place that was filled. The other way round, a deleted node has left
its only place, and its number there is the index that fills it again.

An insertion at an index that fits no machine word is not undone: it leaves a link to a node that
does not list the new child, which then cannot be deleted.
-/

namespace JavaText

namespace Store

open Relation

variable {s s' : Store} {p c : Ref} {f g : List Ref → List Ref} {parent other : Option Ref}

/-! ## Two places of a store -/

/-- The store with another list of children for one node and another parent link for one. -/
def relink (s : Store) (p c : Ref) (f : List Ref → List Ref) (parent : Option Ref) : Store :=
  (s.modifyChildren p f).setParent c parent

/-- Of two parents that are set the last one stays. -/
theorem setParent_setParent : (s.setParent c other).setParent c parent = s.setParent c parent := by
  refine ext_node? fun q => ?_
  simp only [setParent, node?_modify]
  by_cases hq : c = q <;> simp [hq, Function.comp_def]

/-- A list that is changed twice is changed once, by both. -/
theorem modifyChildren_modifyChildren :
    (s.modifyChildren p f).modifyChildren p g = s.modifyChildren p (g ∘ f) := by
  refine ext_node? fun q => ?_
  simp only [modifyChildren, node?_modify]
  cases s.node? q with
  | none => simp
  | some n => by_cases hq : p = q <;> cases hc : n.children <;> simp [hq, hc]

/-- Setting the parent that a node has changes nothing. -/
theorem setParent_eq_self (h : s.parent? c = parent) : s.setParent c parent = s := by
  refine ext_node? fun q => ?_
  rw [setParent, node?_modify]
  split
  · next hq =>
    subst hq
    cases hn : s.node? c with
    | none => rfl
    | some n => simp [← h, parent?, hn]
  · rfl

/-- A change that leaves the list as it is changes nothing. -/
theorem modifyChildren_eq_self (h : f (s.childrenOf p) = s.childrenOf p) :
    s.modifyChildren p f = s := by
  refine ext_node? fun q => ?_
  rw [modifyChildren, node?_modify]
  split
  · next hq =>
    subst hq
    cases hn : s.node? p with
    | none => rfl
    | some n =>
      obtain ⟨role, kind, text, children, parent⟩ := n
      cases children <;> simp_all [childrenOf, Slot.get?]
  · rfl

/-- What changes the list and the link back gives the store back. -/
theorem relink_relink (hparent : s.parent? c = parent)
    (hlist : g (f (s.childrenOf p)) = s.childrenOf p) :
    (s.relink p c f other).relink p c g parent = s := by
  rw [relink, relink, modifyChildren_setParent, setParent_setParent, modifyChildren_modifyChildren,
    modifyChildren_eq_self (show (g ∘ f) (s.childrenOf p) = _ from hlist),
    setParent_eq_self hparent]

/-- The second store is the first but for the list of one node and the parent link of one. -/
structure DiffersAt (s : Store) (p c : Ref) (s' : Store) : Prop where
  size : s'.size = s.size
  node : ∀ q, q ≠ p → q ≠ c → s'.node? q = s.node? q
  label : ∀ q, s'.label q = s.label q
  children : ∀ q, q ≠ p → s'.childrenOf q = s.childrenOf q
  parent : ∀ q, q ≠ c → s'.parent? q = s.parent? q

/-- A relinking changes one list. -/
theorem childrenOf_relink (hp : s.hasList p) (q : Ref) :
    (s.relink p c f parent).childrenOf q =
      if q = p then f (s.childrenOf p) else s.childrenOf q := by
  rw [relink, childrenOf_setParent, childrenOf_modifyChildren s q f hp]

/-- It changes one parent. -/
theorem parent?_relink (hc : c < s.size) (q : Ref) :
    (s.relink p c f parent).parent? q = if q = c then parent else s.parent? q := by
  rw [relink, parent?_setParent _ _ (by simpa using hc), parent?_modifyChildren]

theorem differsAt_relink (hp : s.hasList p) (hc : c < s.size) :
    s.DiffersAt p c (s.relink p c f parent) where
  size := by simp [relink]
  node q hqp hqc := by
    rw [relink, setParent, node?_modify, if_neg (Ne.symm hqc), modifyChildren, node?_modify,
      if_neg (Ne.symm hqp)]
  label q := by simp [relink]
  children q hq := by rw [childrenOf_relink hp, if_neg hq]
  parent q hq := by rw [parent?_relink hc, if_neg hq]

/-! ## Lists of children -/

/-- A node that was not in a list is erased where it was inserted. -/
theorem erase_insertIdx : ∀ {cs : List Ref} (i : Nat), c ∉ cs → (cs.insertIdx i c).erase c = cs
  | cs, 0, _ => by simp
  | [], i + 1, _ => by simp
  | d :: cs, i + 1, h => by
    obtain ⟨hd, hcs⟩ := List.ne_and_not_mem_of_not_mem_cons h
    rw [List.insertIdx_succ_cons, List.erase_cons_tail (by simpa using hd.symm),
      erase_insertIdx i hcs]

/-- The number of a place that was given up is the index of that place in what is left. -/
theorem position_of_lt {length k : Nat} (h : k < length) : position (length - 1) k = k := by
  rw [position, if_neg (by omega)]
  omega

/-- A node that is erased is inserted again at the position where it was. -/
theorem insertIdx_erase {cs : List Ref} {k : Nat} (hnodup : cs.Nodup) (hk : cs[k]? = some c) :
    (cs.erase c).insertIdx (position (cs.erase c).length k) c = cs := by
  obtain ⟨hlt, rfl⟩ := List.getElem?_eq_some_iff.1 hk
  rw [hnodup.erase_getElem k hlt, List.length_eraseIdx_of_lt hlt, position_of_lt hlt,
    List.insertIdx_eraseIdx_getElem hlt]

theorem IsForest.nodup_childrenOf (h : s.IsForest) (p : Ref) : (s.childrenOf p).Nodup := by
  refine List.nodup_iff_count_le_one.2 fun c => ?_
  rw [h.count]
  split <;> decide

/-- A node without a parent is not listed. -/
theorem IsForest.notMem_childrenOf (h : s.IsForest) (hfree : s.parent? c = none) :
    c ∉ s.childrenOf p := by
  rw [h.mem_iff, hfree]
  exact nofun

/-! ## The calls -/

/-- An insertion at an index that fits changes a list and a link. -/
theorem apply_insert_of_isIndex (h : s.IsHeap) (hp : p < s.size) {index : Int}
    (hindex : isIndex index = true) : s.apply (.insert p index (some c)) =
      (s.relink p c (fun cs => cs.insertIdx (position cs.length index) c) (some p), .ok ()) := by
  rw [apply, if_pos (h.isNode p hp)]
  simp only [insertChild, hindex, if_true, modifyChildren_setParent, relink]

/-- At another index it changes the link only, and fails. -/
theorem apply_insert_of_not_isIndex (h : s.IsHeap) (hp : p < s.size) {index : Int}
    (hindex : isIndex index = false) : s.apply (.insert p index (some c)) =
      (s.setParent c (some p), .error .indexTooLarge) := by
  rw [apply, if_pos (h.isNode p hp)]
  simp [insertChild, hindex]

/-- A deletion changes a list and a link if the node is listed, and fails otherwise. -/
theorem apply_delete (h : s.IsHeap) (hc : c < s.size) (hparent : s.parent? c = some p) :
    s.apply (.delete c) =
      if c ∈ s.childrenOf p then (s.relink p c (·.erase c) none, .ok ())
      else (s, .error .notListed) := by
  rw [apply, if_pos (h.isNode c hc), delete_of_parent h hparent]
  split <;> rfl

/-- Inserting a node without a parent and deleting it, at an index that fits a machine word. -/
theorem IsForest.insert_then_delete (hforest : s.IsForest) (hheap : s.IsHeap) (hp : p < s.size)
    (hc : c < s.size) (hfree : s.parent? c = none) {index : Int} (hindex : isIndex index = true) :
    ∃ s', s.apply (.insert p index (some c)) = (s', .ok ()) ∧
      (s'.IsForest ↔ ¬ReflTransGen s.Up p c) ∧ s.DiffersAt p c s' ∧ s'.parent? c = some p ∧
      s'.childrenOf p = (s.childrenOf p).insertIdx (position (s.childrenOf p).length index) c ∧
      s'.apply (.delete c) = (s, .ok ()) := by
  have hlist := hheap.hasList p hp
  have hcall : (Surgery.insert p index (some c)).IsCall s.size := ⟨hp, by simpa using hc⟩
  have hplaced : ∀ d, ¬(Surgery.insert p index (some c)).Misplaces d := by
    rintro d ⟨_, _, heq, hfalse⟩
    cases heq
    cases hindex.symm.trans hfalse
  have happly := apply_insert_of_isIndex hheap hp (c := c) hindex
  have heffect := effect_apply hheap hcall
  have hiff := (heffect.isForest_iff hheap hforest hcall hplaced).2
  have hheap' := heffect.isHeap hheap
  rw [happly] at hiff hheap'
  refine ⟨_, happly, ?_, differsAt_relink hlist hc, ?_, ?_, ?_⟩
  · rw [hiff]
    simp [AttachesFree, Surgery.attached, Surgery.site?, hfree]
  · rw [parent?_relink hc, if_pos rfl]
  · rw [childrenOf_relink hlist, if_pos rfl]
  · have hdelete := apply_delete hheap' (c := c) (p := p) (by simpa [relink] using hc)
      (by rw [parent?_relink hc, if_pos rfl])
    rw [hdelete, childrenOf_relink hlist, if_pos rfl,
      if_pos (List.mem_insertIdx (position_le _ _) |>.2 (.inl rfl)),
      relink_relink hfree (erase_insertIdx _ (hforest.notMem_childrenOf hfree))]

/-- Deleting a node and inserting it where it stood. -/
theorem IsForest.delete_then_insert (hforest : s.IsForest) (hheap : s.IsHeap) {k : Nat}
    (hk : (s.childrenOf p)[k]? = some c) :
    ∃ s', s.apply (.delete c) = (s', .ok ()) ∧ s'.IsForest ∧ s.DiffersAt p c s' ∧
      s'.parent? c = none ∧ s'.childrenOf p = (s.childrenOf p).eraseIdx k ∧
      (isIndex k = true → s'.apply (.insert p k (some c)) = (s, .ok ())) := by
  have hmem := List.mem_of_getElem? hk
  have hparent := hforest.mem_iff.1 hmem
  have hp := hheap.parent_lt c p hparent
  have hc := lt_size_of_parent? hparent
  have hlist := hheap.hasList p hp
  have hdetached : Detached s p c (s.relink p c (·.erase c) none) := detached_delete hheap hparent
  refine ⟨s.relink p c (·.erase c) none, ?_, hforest.of_detached hdetached hparent,
    differsAt_relink hlist hc, ?_, ?_, fun hindex => ?_⟩
  · rw [apply_delete hheap hc hparent, if_pos hmem]
  · rw [parent?_relink hc, if_pos rfl]
  · obtain ⟨hlt, rfl⟩ := List.getElem?_eq_some_iff.1 hk
    rw [childrenOf_relink hlist, if_pos rfl, (hforest.nodup_childrenOf p).erase_getElem k hlt]
  · rw [apply_insert_of_isIndex (hdetached.isHeap hheap) (by simpa [relink] using hp) hindex,
      relink_relink hparent (insertIdx_erase (hforest.nodup_childrenOf p) hk)]

/-- An insertion and a deletion undo each other in a forest of nodes. A node without a parent that
is inserted, at whatever index, and then deleted leaves the store as it was; the store between them
is that store but for the list of the one node and the link of the other, and a forest unless the
node was inserted below itself. So does a node that is deleted and then inserted where it stood.
Only an insertion at an index that fits no machine word fails, and deleting the node then fails too,
which leaves its link. -/
theorem insert_delete_undo (hheap : s.IsHeap) (hforest : s.IsForest) :
    (∀ p < s.size, ∀ c < s.size, s.parent? c = none → ∀ index,
      (isIndex index = true → ∃ s', s.apply (.insert p index (some c)) = (s', .ok ()) ∧
        (s'.IsForest ↔ ¬ReflTransGen s.Up p c) ∧ s.DiffersAt p c s' ∧ s'.parent? c = some p ∧
        s'.childrenOf p = (s.childrenOf p).insertIdx (position (s.childrenOf p).length index) c ∧
        s'.apply (.delete c) = (s, .ok ())) ∧
      (isIndex index = false → ∃ s',
        s.apply (.insert p index (some c)) = (s', .error .indexTooLarge) ∧ s' ≠ s ∧
        s'.apply (.delete c) = (s', .error .notListed))) ∧
    (∀ p c k, (s.childrenOf p)[k]? = some c → ∃ s', s.apply (.delete c) = (s', .ok ()) ∧
      s'.IsForest ∧ s.DiffersAt p c s' ∧ s'.parent? c = none ∧
      s'.childrenOf p = (s.childrenOf p).eraseIdx k ∧
      (isIndex k = true → s'.apply (.insert p k (some c)) = (s, .ok ()))) := by
  refine ⟨fun p hp c hc hfree index => ⟨fun hindex => ?_, fun hindex => ?_⟩, fun p c k hk => ?_⟩
  · exact hforest.insert_then_delete hheap hp hc hfree hindex
  · have hlink : (s.setParent c (some p)).parent? c = some p := by
      rw [parent?_setParent s c hc, if_pos rfl]
    have hcall : (Surgery.insert p index (some c)).IsCall s.size := ⟨hp, by simpa using hc⟩
    have happly := apply_insert_of_not_isIndex hheap hp (c := c) hindex
    have hheap' := (effect_apply hheap hcall).isHeap hheap
    rw [happly] at hheap'
    refine ⟨_, happly, fun heq => ?_, ?_⟩
    · rw [heq, hfree] at hlink
      cases hlink
    · rw [apply_delete hheap' (by simpa using hc) hlink, childrenOf_setParent,
        if_neg (hforest.notMem_childrenOf hfree)]
  · exact hforest.delete_then_insert hheap hk

/-- A method with its type, its name and a semicolon, and a comment that is nowhere yet. -/
def commenting : List Surgery :=
  [.create .construct (some (.construct .method)) none none [],
    .create .token (some (.token .identifier)) (some "T") (some 0) [],
    .create .token (some (.token .identifier)) (some "f") (some 0) [],
    .create .token (some (.token (.symbol .semicolon))) (some ";") (some 0) [],
    .create .token (some (.token (.trivia .blockComment))) (some "/* x */") none []]

/-- The comment is put before the name, counted from the end, and at the start, with an index far
out of range; the name is taken out and put back. -/
theorem insert_delete_undo_comment :
    ∃ s, empty.applyAll commenting = (s, .ok ()) ∧ s.IsHeap ∧ s.IsForest ∧
      s.childrenOf 0 = [1, 2, 3] ∧
      (∃ s', s.apply (.insert 0 (-2) (some 4)) = (s', .ok ()) ∧ s'.childrenOf 0 = [1, 4, 2, 3] ∧
        s'.apply (.delete 4) = (s, .ok ())) ∧
      (∃ s', s.apply (.insert 0 (-9) (some 4)) = (s', .ok ()) ∧ s'.childrenOf 0 = [4, 1, 2, 3] ∧
        s'.apply (.delete 4) = (s, .ok ())) ∧
      (∃ s', s.apply (.delete 2) = (s', .ok ()) ∧ s'.childrenOf 0 = [1, 3] ∧
        s'.apply (.insert 0 1 (some 2)) = (s, .ok ())) := by
  obtain ⟨s, hs, hheap, hforest⟩ := @isForest_of_grows commenting (by decide)
  obtain rfl : (empty.applyAll commenting).1 = s := congrArg Prod.fst hs
  obtain ⟨hinsert, hdelete⟩ := insert_delete_undo hheap hforest
  have hfree := hinsert 0 (by decide) 4 (by decide) (by decide)
  refine ⟨_, hs, hheap, hforest, by decide, ?_, ?_, ?_⟩
  · obtain ⟨s', happly, -, -, -, hchildren, hback⟩ := (hfree (-2)).1 (by decide)
    exact ⟨s', happly, hchildren, hback⟩
  · obtain ⟨s', happly, -, -, -, hchildren, hback⟩ := (hfree (-9)).1 (by decide)
    exact ⟨s', happly, hchildren, hback⟩
  · obtain ⟨s', happly, -, -, -, hchildren, hback⟩ := hdelete 0 2 1 (by decide)
    exact ⟨s', happly, hchildren, hback (by decide)⟩

/-- The comment is free to be put into the method, but not every insertion of it is undone by its
deletion. -/
theorem insert_delete_undo_large_index :
    ∃ s : Store, s.IsHeap ∧ s.IsForest ∧ Surgery.IsCall s.size (.insert 0 Surgery.beyond (some 4)) ∧
      s.parent? 4 = none ∧ ¬ReflTransGen s.Up 0 4 ∧
      ((s.apply (.insert 0 Surgery.beyond (some 4))).1.apply (.delete 4)).1 ≠ s := by
  obtain ⟨s, hs, hheap, hforest⟩ := @isForest_of_grows commenting (by decide)
  obtain rfl : (empty.applyAll commenting).1 = s := congrArg Prod.fst hs
  refine ⟨_, hheap, hforest, ⟨by decide, by decide⟩, by decide,
    IsForest.not_reflTransGen (by decide) (by decide), by decide⟩

end Store

end JavaText
