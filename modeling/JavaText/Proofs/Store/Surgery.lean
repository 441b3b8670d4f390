import JavaText.Proofs.Store.Effects

/-!
# Surgery on a forest

A forest stays a forest as long as only free nodes are attached. A node is free for a call if it has
no parent, if the call does not attach it twice, and if the node that it is attached to is neither
the node itself nor below it (`Store.AttachesFree`). This is exact: whatever else is attached leaves
a node with a second place in a list, or a way round along the links. Creating and deleting nodes do
no harm (`Effect.isForest_iff`). So a run that attaches free nodes only ends in a forest.

The exception is an insertion at an index that fits no machine word. It fails after it has set the
parent link, and leaves a forest only if it found the link as it set it.
-/

namespace JavaText

namespace Store

open Relation

variable {s s' : Store} {p r : Ref}

/-- The nodes that an operation attaches have no parent, differ from one another, and are not above
the place where they are attached. -/
def AttachesFree (s : Store) (op : Surgery) : Prop :=
  op.attached.Nodup ∧ ∀ c ∈ op.attached, s.parent? c = none ∧
    ∀ p ∈ op.site?, ¬ReflTransGen s.Up p c

/-- Each operation of a run is a call that attaches free nodes, at an index that fits a machine
word. -/
def AttachesFreeAll (s : Store) : List Surgery → Prop
  | [] => True
  | op :: ops => op.IsCall s.size ∧ (∀ c, ¬op.Misplaces c) ∧ s.AttachesFree op ∧
      (s.apply op).1.AttachesFreeAll ops

/-! ## Creating in a forest -/

section Planted

variable {role : Role} {kind : Option Kind} {text : Option Text} {parent : Option Ref}

/-- The ways up from the nodes that were there lead through them only. -/
theorem reflTransGen_planted (h : s.IsHeap) (hparent : ∀ p ∈ parent, p < s.size) {a b : Ref}
    (ha : a < s.size) :
    ReflTransGen (s.planted role kind text parent).Up a b ↔ ReflTransGen s.Up a b := by
  have hold : ∀ q < s.size, (s.planted role kind text parent).parent? q = s.parent? q := by
    intro q hq
    rw [parent?_planted h hparent, if_neg (Nat.ne_of_lt hq)]
  constructor
  · intro hab
    have hstay : ReflTransGen s.Up a b ∧ b < s.size := by
      induction hab with
      | refl => exact ⟨.refl, ha⟩
      | @tail b d _ hbd ih =>
        obtain ⟨hab, hb⟩ := ih
        rw [Up, hold b hb] at hbd
        exact ⟨hab.tail hbd, h.parent_lt b d hbd⟩
    exact hstay.1
  · refine ReflTransGen.mono (fun c d hcd => ?_) a b
    rw [Up, hold c (lt_size_of_parent? hcd)]
    exact hcd

/-- A node is above the new one if it is above its parent. -/
theorem reflTransGen_planted_new (h : s.IsHeap) (hparent : ∀ p ∈ parent, p < s.size) {c : Ref}
    (hc : c < s.size) :
    ReflTransGen (s.planted role kind text parent).Up s.size c ↔
      ∃ p ∈ parent, ReflTransGen s.Up p c := by
  have hnew : (s.planted role kind text parent).parent? s.size = parent := by
    rw [parent?_planted h hparent, if_pos rfl]
  constructor
  · intro hup
    rcases ReflTransGen.cases_head hup with heq | ⟨p, hp, hpc⟩
    · exact absurd heq (Nat.ne_of_gt hc)
    · rw [Up, hnew] at hp
      exact ⟨p, hp, (reflTransGen_planted h hparent (hparent p hp)).1 hpc⟩
  · rintro ⟨p, hp, hpc⟩
    refine .head (b := p) ?_ ((reflTransGen_planted h hparent (hparent p hp)).2 hpc)
    rw [Up, hnew]
    exact hp

theorem isForest_planted (h : s.IsForest) (hheap : s.IsHeap) (hparent : ∀ p ∈ parent, p < s.size) :
    (s.planted role kind text parent).IsForest := by
  have hpush : (s.push (fresh role kind text)).IsForest :=
    h.congr (childrenOf_push_fresh s _ _ _) (parent?_push_fresh s _ _ _)
  cases parent with
  | none => exact hpush
  | some p =>
    refine hpush.of_attached (attached_planted s role kind text hheap hparent) (by simp) ?_
    intro c hc
    obtain rfl : c = s.size := by simpa using hc
    -- no link leads to the new node, so it is not above its parent
    have hunder : ∀ a, (s.push (fresh role kind text)).parent? a ≠ some s.size := by
      intro a ha
      rw [parent?_push_fresh] at ha
      exact Nat.lt_irrefl _ (hheap.parent_lt a _ ha)
    refine ⟨?_, fun hback => ?_⟩
    · rw [parent?_push_fresh, parent?, node?_size]
      rfl
    · rcases ReflTransGen.cases_tail hback with heq | ⟨a, -, ha⟩
      · exact Nat.ne_of_gt (hparent p rfl) heq
      · exact hunder a ha

end Planted

/-! ## Calls on a forest -/

theorem IsForest.of_detached (h : s.IsForest) (hs' : Detached s p r s')
    (hr : s.parent? r = some p) : s'.IsForest := by
  refine ⟨fun q c => ?_, fun a hround => h.acyclic a (.mono (fun b d hbd => ?_) a a hround)⟩
  · rw [hs'.children, hs'.parent]
    by_cases hc : c = r
    · -- in a forest the node has one place, and it loses that with its link
      subst hc
      split
      · next hq => simp [List.count_erase_self, h.count, hr]
      · next hq => simp [h.count, hr, Ne.symm hq]
    · rw [if_neg hc]
      split
      · next hq => rw [List.count_erase_of_ne hc, ← hq, h.count]
      · exact h.count q c
  · rw [Up, hs'.parent] at hbd
    split at hbd
    · cases hbd
    · exact hbd

/-- What a call makes of a forest is a forest just if it attaches free nodes. -/
theorem Effect.isForest_iff {op : Surgery} {result : Except SurgeryError Unit}
    (h : Effect s op s' result) (hheap : s.IsHeap) (hforest : s.IsForest)
    (hcall : op.IsCall s.size) (hplaced : ∀ c, ¬op.Misplaces c) :
    result = .ok () ∧ (s'.IsForest ↔ s.AttachesFree op) := by
  cases h with
  | @create role kind text parent cs s' hrole hparent h =>
    refine ⟨rfl, (isForest_planted hforest hheap hparent).attached_iff h |>.trans ?_⟩
    refine and_congr_right fun _ => forall₂_congr fun c hc => ?_
    have hlt : c < s.size := hcall.2.2 c hc
    rw [parent?_planted hheap hparent, if_neg (Nat.ne_of_lt hlt),
      reflTransGen_planted_new hheap hparent hlt]
    simp [Surgery.site?]
  | attach _ hsite h =>
    refine ⟨rfl, (hforest.attached_iff h).trans ?_⟩
    simp [AttachesFree, hsite]
  | @misplace p c index _ _ hindex => exact absurd ⟨p, index, rfl, hindex⟩ (hplaced c)
  | stay _ => exact ⟨rfl, by simp [AttachesFree, Surgery.attached, hforest]⟩
  | detach hr _ h =>
    exact ⟨rfl, by simp [AttachesFree, Surgery.attached, hforest.of_detached h hr]⟩
  | refuse hr hmem => exact absurd (hforest.mem_iff.2 hr) hmem

/-- Setting a link alone leaves a forest just if it was set so before. -/
theorem IsForest.setParent_iff (h : s.IsForest) {c : Ref} (hc : c < s.size) :
    (s.setParent c (some p)).IsForest ↔ s.parent? c = some p := by
  have hlink : (s.setParent c (some p)).parent? c = some p := by
    rw [parent?_setParent s c hc, if_pos rfl]
  constructor
  · intro h'
    rw [← h.mem_iff, ← childrenOf_setParent s c p (some p), h'.mem_iff, hlink]
  · intro hparent
    refine h.congr (fun q => childrenOf_setParent s c q _) fun q => ?_
    rw [parent?_setParent s q hc]
    split
    · next hq => rw [hq, hparent]
    · rfl

/-- A run that attaches free nodes only succeeds and ends in a forest. -/
theorem IsForest.applyAll : ∀ {ops : List Surgery} {s : Store}, s.IsHeap → s.IsForest →
    s.AttachesFreeAll ops → ∃ s', s.applyAll ops = (s', .ok ()) ∧ s'.IsHeap ∧ s'.IsForest
  | [], s, hheap, hforest, _ => ⟨s, rfl, hheap, hforest⟩
  | op :: ops, s, hheap, hforest, hfree => by
    obtain ⟨hcall, hplaced, hfree, hrest⟩ := hfree
    have heffect := effect_apply hheap hcall
    obtain ⟨hok, hiff⟩ := heffect.isForest_iff hheap hforest hcall hplaced
    obtain ⟨s', happly, hs'⟩ := applyAll (heffect.isHeap hheap) (hiff.2 hfree) hrest
    refine ⟨s', ?_, hs'⟩
    rw [Store.applyAll, show s.apply op = ((s.apply op).1, .ok ()) from Prod.ext rfl hok]
    exact happly

/-- Surgery on a forest of nodes: deleting a node and creating one without links give a forest, as
does attaching just if what is attached is free; attaching nothing changes nothing; an insertion
at an index that fits no machine word fails, and leaves a forest just if the node was there already;
and a run that attaches free nodes only ends in a forest. -/
theorem surgery_on_forest (hheap : s.IsHeap) (hforest : s.IsForest) :
    (∀ r < s.size, ∃ s', s.apply (.delete r) = (s', .ok ()) ∧ s'.IsForest) ∧
    (∀ role kind text, role.isNode = true →
      ∃ s', s.apply (.create role kind text none []) = (s', .ok ()) ∧ s'.IsForest) ∧
    (∀ op : Surgery, op.IsCall s.size → (∀ c, ¬op.Misplaces c) →
      ∃ s', s.apply op = (s', .ok ()) ∧ (s'.IsForest ↔ s.AttachesFree op)) ∧
    (∀ p < s.size, s.apply (.add p none) = (s, .ok ()) ∧ s.apply (.addAll p [none]) = (s, .ok ()) ∧
      s.apply (.attach p [none]) = (s, .ok ()) ∧
      ∀ index, s.apply (.insert p index none) = (s, .ok ())) ∧
    (∀ p < s.size, ∀ c < s.size, ∀ index, isIndex index = false →
      ∃ s', s.apply (.insert p index (some c)) = (s', .error .indexTooLarge) ∧
        (s'.IsForest ↔ s.parent? c = some p)) ∧
    (∀ ops, s.AttachesFreeAll ops → ∃ s', s.applyAll ops = (s', .ok ()) ∧ s'.IsForest) := by
  have hcalls : ∀ op : Surgery, op.IsCall s.size → (∀ c, ¬op.Misplaces c) →
      ∃ s', s.apply op = (s', .ok ()) ∧ (s'.IsForest ↔ s.AttachesFree op) := by
    intro op hcall hplaced
    obtain ⟨hok, hiff⟩ := (effect_apply hheap hcall).isForest_iff hheap hforest hcall hplaced
    exact ⟨_, Prod.ext rfl hok, hiff⟩
  have hharmless : ∀ op : Surgery, op.IsCall s.size → op.attached = [] → (∀ c, ¬op.Misplaces c) →
      ∃ s', s.apply op = (s', .ok ()) ∧ s'.IsForest := by
    intro op hcall hnone hplaced
    obtain ⟨s', happly, hiff⟩ := hcalls op hcall hplaced
    exact ⟨s', happly, hiff.2 (by simp [AttachesFree, hnone])⟩
  refine ⟨fun r hr => ?_, fun role kind text hrole => ?_, hcalls, fun p hp => ?_, ?_, ?_⟩
  · exact hharmless (.delete r) hr rfl fun c => by rintro ⟨_, _, h, -⟩; cases h
  · refine hharmless (.create role kind text none []) ⟨hrole, by simp, by simp⟩ rfl fun c => ?_
    rintro ⟨_, _, h, -⟩
    cases h
  · simp [apply, only, hheap.isNode p hp, addChild, addChildren, insertChild]
  · intro p hp c hc index hindex
    refine ⟨s.setParent c (some p), ?_, hforest.setParent_iff hc⟩
    simp [apply, hheap.isNode p hp, insertChild, hindex]
  · intro ops hops
    obtain ⟨s', happly, -, hs'⟩ := hforest.applyAll hheap hops
    exact ⟨s', happly, hs'⟩

/-- Whether a run, from a store of the given size on, only creates nodes without children, each with
a parent that is there before it. -/
def grows : Nat → List Surgery → Bool
  | _, [] => true
  | size, .create role _ _ parent [] :: ops =>
    role.isNode && decide (∀ p ∈ parent, p < size) && grows (size + 1) ops
  | _, _ :: _ => false

theorem attachesFreeAll_of_grows {ops : List Surgery} (hheap : s.IsHeap)
    (h : grows s.size ops) : s.AttachesFreeAll ops := by
  generalize hsize : s.size = size at h
  fun_induction grows size ops generalizing s with
  | case1 => trivial
  | case2 size role kind text parent ops ih =>
    simp only [Bool.and_eq_true, decide_eq_true_eq] at h
    obtain ⟨⟨hrole, hparent⟩, hrest⟩ := h
    rw [← hsize] at hparent
    have hcall : Surgery.IsCall s.size (.create role kind text parent []) :=
      ⟨hrole, hparent, by simp⟩
    refine ⟨hcall, fun c => ?_, by simp [AttachesFree, Surgery.attached], ?_⟩
    · rintro ⟨_, _, h, -⟩
      cases h
    · refine ih ((effect_apply hheap hcall).isHeap hheap) ?_ hrest
      rw [apply, create_eq hheap hparent, settle, size_addChildren, size_planted, hsize]
  | case3 => cases h

/-- A forest grows from nothing node by node. -/
theorem isForest_of_grows {ops : List Surgery} (h : grows 0 ops) :
    ∃ s, empty.applyAll ops = (s, .ok ()) ∧ s.IsHeap ∧ s.IsForest :=
  isForest_empty.applyAll isHeap_empty (attachesFreeAll_of_grows isHeap_empty h)

/-- A method with its name, and a file that the method is not in. -/
def planting : List Surgery :=
  [.create .construct (some (.construct .method)) none none [],
    .create .token (some (.token .identifier)) (some "f") (some 0) [],
    .create .construct (some (.construct .javaFile)) none none []]

theorem isForest_planting : ∃ s, empty.applyAll planting = (s, .ok ()) ∧ s.IsHeap ∧ s.IsForest :=
  isForest_of_grows (by decide)

/-- The method is free to be put into the file. -/
theorem attachesFree_planting (index : Int) :
    (empty.applyAll planting).1.AttachesFree (.insert 2 index (some 0)) := by
  refine ⟨by simp [Surgery.attached], fun c hc => ?_⟩
  obtain rfl : c = 0 := by simpa [Surgery.attached] using hc
  refine ⟨by decide, fun p hp => ?_⟩
  obtain rfl : 2 = p := Option.some.inj hp
  exact IsForest.not_reflTransGen (by decide) (by decide)

/-- The method may be put into the file, its name may not, and the method may not be put below its
name. -/
theorem surgery_on_forest_method :
    ∃ s, empty.applyAll planting = (s, .ok ()) ∧ s.IsHeap ∧ s.IsForest ∧
      (∃ s', s.apply (.insert 2 (-1) (some 0)) = (s', .ok ()) ∧ s'.IsForest) ∧
      (∃ s', s.apply (.add 2 (some 1)) = (s', .ok ()) ∧ ¬s'.IsForest) ∧
      (∃ s', s.apply (.attach 1 [some 0]) = (s', .ok ()) ∧ ¬s'.IsForest) := by
  obtain ⟨s, hs, hheap, hforest⟩ := isForest_planting
  obtain rfl : (empty.applyAll planting).1 = s := congrArg Prod.fst hs
  have hcalls := (surgery_on_forest hheap hforest).2.2.1
  refine ⟨_, hs, hheap, hforest, ?_, ?_, ?_⟩
  · obtain ⟨s', happly, hiff⟩ := hcalls (.insert 2 (-1) (some 0)) ⟨by decide, by decide⟩ (by
      rintro c ⟨_, _, h, hindex⟩
      cases h
      cases hindex)
    exact ⟨s', happly, hiff.2 (attachesFree_planting (-1))⟩
  · obtain ⟨s', happly, hiff⟩ := hcalls (.add 2 (some 1)) ⟨by decide, by decide⟩ (by
      rintro c ⟨_, _, h, -⟩
      cases h)
    refine ⟨s', happly, fun h => ?_⟩
    have hnone := ((hiff.1 h).2 1 (by simp [Surgery.attached])).1
    revert hnone
    decide
  · obtain ⟨s', happly, hiff⟩ := hcalls (.attach 1 [some 0]) ⟨by decide, by decide⟩ (by
      rintro c ⟨_, _, h, -⟩
      cases h)
    refine ⟨s', happly, fun h => ?_⟩
    refine ((hiff.1 h).2 0 (by simp [Surgery.attached])).2 1 rfl (.single ?_)
    rw [Up]
    decide

/-- An insertion of a node that is free, at an index that fits no machine word, does not leave a
forest. -/
theorem surgery_on_forest_large_index :
    ∃ s : Store, s.IsHeap ∧ s.IsForest ∧ Surgery.IsCall s.size (.insert 2 Surgery.beyond (some 0)) ∧
      s.AttachesFree (.insert 2 Surgery.beyond (some 0)) ∧
      ¬(s.apply (.insert 2 Surgery.beyond (some 0))).1.IsForest := by
  obtain ⟨s, hs, hheap, hforest⟩ := isForest_planting
  obtain rfl : (empty.applyAll planting).1 = s := congrArg Prod.fst hs
  refine ⟨_, hheap, hforest, ⟨by decide, by decide⟩, attachesFree_planting _, fun h => ?_⟩
  have hmem : 0 ∈
      ((empty.applyAll planting).1.apply (.insert 2 Surgery.beyond (some 0))).1.childrenOf 2 :=
    h.mem_iff.2 (by decide)
  revert hmem
  decide

end Store

end JavaText
