import JavaText.Proofs.Store.Forest

/-!
# The way down from a node

The walks down from a node follow the lists of children and spend fuel on the way. They reach an end
just if no way down comes back to where it was (`Store.EndsBelow`), whatever the parent links say.
Then the nodes on a way down are all different, and each of them lists the next, so a way down is no
longer than the store is large: what holds of a node with some fuel if it holds of its children with
one unit less holds of every such node (`Store.EndsBelow.fuel_induction`).

In a forest there is no way round at all (`Store.IsForest.endsBelow`).
-/

namespace JavaText

open Relation

namespace Store

variable {s : Store} {r p c : Ref}

/-- The first node lists the second one as its child. -/
def Lists (s : Store) (p c : Ref) : Prop :=
  c ∈ s.childrenOf p

/-- No way down from a node comes back to where it was. -/
def EndsBelow (s : Store) (r : Ref) : Prop :=
  ∀ q, ReflTransGen s.Lists r q → ¬TransGen s.Lists q q

namespace EndsBelow

theorem child (h : s.EndsBelow p) (hc : c ∈ s.childrenOf p) : s.EndsBelow c :=
  fun q hq => h q (.head hc hq)

/-- Where all ways down from the children end, so do those from the node. -/
theorem of_children (h : ∀ c ∈ s.childrenOf r, s.EndsBelow c) : s.EndsBelow r := by
  intro q hq hround
  rcases ReflTransGen.cases_head hq with rfl | ⟨c, hc, hq⟩
  · obtain ⟨c, hc, hback⟩ := TransGen.head'_iff.1 hround
    exact h c hc c .refl (.tail' hback hc)
  · exact h c hc q hq hround

/-- If every node has a larger number than the one that lists it, all ways down end. -/
theorem of_lt (h : ∀ p < s.size, ∀ c ∈ s.childrenOf p, p < c) : s.EndsBelow r := by
  intro q _ hround
  have hlists : ∀ {p c}, s.Lists p c → p < c := fun hc => h _ (lt_size_of_mem_childrenOf hc) _ hc
  have hlt : ∀ {a b}, TransGen s.Lists a b → a < b := by
    intro a b hab
    induction hab with
    | single hb => exact hlists hb
    | tail _ hb ih => exact Nat.lt_trans ih (hlists hb)
  exact Nat.lt_irrefl q (hlt hround)

/-- What holds of a node with some fuel if it holds of its children with one unit less holds of
every node below which all ways end, given more fuel than there are nodes that may have children. A
node that may have children itself has fuel to spare. -/
theorem fuel_induction (h : s.EndsBelow r) {n : Nat} (hn : ∀ p c, c ∈ s.childrenOf p → p < n)
    {P : Nat → Ref → Prop} (step : ∀ fuel q, s.EndsBelow q → (q < n → 0 < fuel) →
      (∀ c ∈ s.childrenOf q, P fuel c) → P (fuel + 1) q) {fuel : Nat} (hfuel : n < fuel) :
    P fuel r := by
  have habove : ∀ {q r : Ref}, TransGen s.Lists q r → q < n := by
    intro q r hqr
    obtain ⟨b, hb, -⟩ := TransGen.head'_iff.1 hqr
    exact hn q b hb
  -- `path` holds nodes above the node; each unit of fuel that is spent makes it longer
  have walk : ∀ (fuel : Nat) (r : Ref) (path : List Ref), s.EndsBelow r → path.Nodup →
      (∀ q ∈ path, TransGen s.Lists q r) → n < fuel + path.length → P fuel r := by
    intro fuel
    induction fuel with
    | zero =>
      intro r path _ hnodup hpath hfuel
      have hle := length_le_of_lt hnodup fun q hq => habove (hpath q hq)
      omega
    | succ fuel ih =>
      intro r path hends hnodup hpath hfuel
      have hnew : r ∉ path := fun hmem => hends r .refl (hpath r hmem)
      have hnodup' : (r :: path).Nodup := List.nodup_cons.2 ⟨hnew, hnodup⟩
      refine step fuel r hends (fun hr => ?_) fun c hc => ?_
      · have hle := length_le_of_lt hnodup' fun q hq => by
          rcases List.mem_cons.1 hq with rfl | hq
          · exact hr
          · exact habove (hpath q hq)
        rw [List.length_cons] at hle
        omega
      · refine ih c (r :: path) (hends.child hc) hnodup' (fun q hq => ?_)
          (by rw [List.length_cons]; omega)
        rcases List.mem_cons.1 hq with rfl | hq
        · exact .single hc
        · exact (hpath q hq).tail hc
  exact walk fuel r [] h List.nodup_nil (List.forall_mem_nil _) (by simpa using hfuel)

/-- What holds of a node if it holds of its children holds of every node below which all ways end.
-/
theorem below_induction (h : s.EndsBelow r) {P : Ref → Prop}
    (step : ∀ q, s.EndsBelow q → (∀ c ∈ s.childrenOf q, P c) → P q) : P r :=
  h.fuel_induction (fun _ _ => lt_size_of_mem_childrenOf) (P := fun _ => P)
    (fun _ q hq _ hbelow => step q hq hbelow) (Nat.lt_succ_self s.size)

end EndsBelow

theorem IsForest.endsBelow (h : s.IsForest) (r : Ref) : s.EndsBelow r := by
  intro q _ hround
  have hup : TransGen (Function.swap s.Up) q q :=
    TransGen.mono (fun p c hc => h.mem_iff.1 hc) _ _ hround
  exact h.acyclic q (transGen_swap.1 hup)

end Store

end JavaText
