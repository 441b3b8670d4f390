import JavaText.Proofs.Store.Descent
import JavaText.Proofs.Store.Shape

/-!
# The tips of a tree

The walk that writes the canonical text spends fuel on its way down and treats every node without
children as a token. `Store.tips` are the nodes without children below a node, from left to right.
Where all ways down end, writing what is below a node is writing its tips
(`EndsBelow.writeFrom_tips`). So the walk ends too, and the canonical text is a matter of the tips
alone; in a forest this is so for every node.
-/

namespace JavaText

namespace Store

variable {s : Store} {r : Ref}

/-! ## The way down in a forest -/

/-- What holds of a node with some fuel if it holds of its children with one unit less holds of
every node of a forest, given more fuel than there are nodes that may have children. A node that may
have children itself has fuel to spare. -/
theorem IsForest.fuel_induction (h : s.IsForest) {n : Nat} (hn : ∀ c p, s.Up c p → p < n)
    {P : Nat → Ref → Prop} (step : ∀ fuel r, (r < n → 0 < fuel) →
      (∀ c ∈ s.childrenOf r, P fuel c) → P (fuel + 1) r) (r : Ref) : P (n + 1) r :=
  (h.endsBelow r).fuel_induction (fun p c hc => hn c p (h.mem_iff.1 hc))
    (fun fuel r _ => step fuel r) (Nat.lt_succ_self n)

/-- What holds of a node if it holds of its children holds of every node of a forest. -/
theorem IsForest.below_induction (h : s.IsForest) {P : Ref → Prop}
    (step : ∀ r, (∀ c ∈ s.childrenOf r, P c) → P r) (r : Ref) : P r :=
  (h.endsBelow r).below_induction fun r _ => step r

/-! ## Tips -/

/-- The nodes without children below a node, from left to right, as far down as the fuel lasts. -/
def tipsFrom (s : Store) : Nat → Ref → List Ref
  | 0, _ => []
  | fuel + 1, r =>
    match s.childrenOf r with
    | [] => [r]
    | cs => cs.flatMap (s.tipsFrom fuel)

/-- The nodes without children below a node, from left to right. -/
def tips (s : Store) (r : Ref) : List Ref :=
  s.tipsFrom s.depth r

theorem tipsFrom_leaf (hr : s.childrenOf r = []) (fuel : Nat) : s.tipsFrom (fuel + 1) r = [r] := by
  rw [tipsFrom, hr]

/-- The tips below a node with children are those below the children. -/
theorem tipsFrom_succ (hr : s.childrenOf r ≠ []) (fuel : Nat) :
    s.tipsFrom (fuel + 1) r = (s.childrenOf r).flatMap (s.tipsFrom fuel) := by
  rw [tipsFrom]
  split
  · next hcs => exact absurd hcs hr
  · rfl

theorem tips_leaf (hr : s.childrenOf r = []) : s.tips r = [r] :=
  tipsFrom_leaf hr s.size

/-- More fuel finds no more tips. -/
theorem EndsBelow.tipsFrom_depth (h : s.EndsBelow r) : s.tipsFrom (s.depth + 1) r = s.tips r := by
  refine h.fuel_induction (fun _ _ => lt_size_of_mem_childrenOf)
    (P := fun fuel r => s.tipsFrom (fuel + 1) r = s.tipsFrom fuel r) (fun fuel r _ _ ih => ?_)
    (Nat.lt_succ_self s.size)
  by_cases hr : s.childrenOf r = []
  · rw [tipsFrom_leaf hr, tipsFrom_leaf hr]
  · rw [tipsFrom_succ hr, tipsFrom_succ hr]
    exact List.flatMap_congr ih

theorem EndsBelow.tips_of_children (h : s.EndsBelow r) (hr : s.childrenOf r ≠ []) :
    s.tips r = (s.childrenOf r).flatMap s.tips := by
  rw [← h.tipsFrom_depth, tipsFrom_succ hr]
  rfl

/-- In a forest the tips of a node with children are those of the children. -/
theorem IsForest.tips_of_children (h : s.IsForest) (hr : s.childrenOf r ≠ []) :
    s.tips r = (s.childrenOf r).flatMap s.tips :=
  (h.endsBelow r).tips_of_children hr

/-! ## Writing tip by tip -/

/-- Write a node without children. -/
def writeTip (s : Store) (d : Draft) (l : Ref) : Draft :=
  d.writeToken (s.surroundings l) (s.tokenAt l)

/-- Writing several nodes one after another is writing their tips, if that is so for each. -/
theorem foldlM_of_tips {fuel : Nat} : ∀ {rs : List Ref},
    (∀ c ∈ rs, ∀ d, s.writeFrom fuel c d = .ok ((s.tips c).foldl s.writeTip d)) → ∀ d,
      rs.foldlM (fun d c => s.writeFrom fuel c d) d = .ok ((rs.flatMap s.tips).foldl s.writeTip d)
  | [], _, d => rfl
  | c :: rs, h, d => by
    obtain ⟨hc, hrs⟩ := List.forall_mem_cons.1 h
    rw [List.foldlM_cons, hc, List.flatMap_cons, List.foldl_append]
    exact foldlM_of_tips hrs _

/-- Writing what is below a node is writing its tips. -/
theorem EndsBelow.writeFrom_tips (h : s.EndsBelow r) :
    ∀ d, s.writeFrom s.depth r d = .ok ((s.tips r).foldl s.writeTip d) := by
  refine h.fuel_induction (fun _ _ => lt_size_of_mem_childrenOf)
    (P := fun fuel r => ∀ d, s.writeFrom fuel r d = .ok ((s.tips r).foldl s.writeTip d))
    (fun fuel r hr _ ih d => ?_) (Nat.lt_succ_self s.size)
  rw [writeFrom]
  split
  · next hcs =>
    rw [tips_leaf hcs]
    rfl
  · next hcs => rw [foldlM_of_tips ih, hr.tips_of_children hcs]

/-- The canonical text below a node is that of its tips. -/
theorem EndsBelow.canonical_tips (h : s.EndsBelow r) :
    s.canonical r = .ok ((s.tips r).foldl s.writeTip .empty).text := by
  rw [canonical, h.writeFrom_tips]
  rfl

/-- In a forest a node is written tip by tip. -/
theorem IsForest.writeFrom_tips (h : s.IsForest) (r : Ref) :
    ∀ d, s.writeFrom s.depth r d = .ok ((s.tips r).foldl s.writeTip d) :=
  (h.endsBelow r).writeFrom_tips

/-- So are nodes one after another. -/
theorem IsForest.foldlM_tips (h : s.IsForest) (rs : List Ref) (d : Draft) :
    rs.foldlM (fun d c => s.writeFrom s.depth c d) d =
      .ok ((rs.flatMap s.tips).foldl s.writeTip d) :=
  foldlM_of_tips (fun c _ => h.writeFrom_tips c) d

/-- So the canonical text is that of the tips. -/
theorem IsForest.canonical_tips (h : s.IsForest) (r : Ref) :
    s.canonical r = .ok ((s.tips r).foldl s.writeTip .empty).text :=
  (h.endsBelow r).canonical_tips

end Store

end JavaText
