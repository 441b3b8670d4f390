import JavaText.Proofs.Canonical.Moved
import JavaText.Proofs.Store.Tips

/-!
# Leaves of trivia among linked nodes

A leaf of trivia is a token of white space or of a comment, without children. Constructs may gain
and lose such leaves anywhere in a store: `Store.Respaced` relates two stores of which every node is
the same but for the leaves of trivia among its children. Nothing is asked of the links of the
leaves themselves, so the second store need not be a forest.

Two lists of children are `Aligned` if they hold the same nodes in the same order once the leaves of
trivia are passed over. Walks over both lists go hand in hand. The walk up meets no leaf of trivia
at all, so what stands around a node stays as it is, and a node keeps its canonical text
(`IsForest.canonical_respaced`).
-/

namespace JavaText

open Relation

namespace Store

variable {s s' : Store} {q p c : Ref}

/-! ## Stores with other trivia -/

/-- Whether a node is a token of trivia without children. -/
def isTriviaLeaf (s : Store) (r : Ref) : Bool :=
  s.role r == .token && Kind.isTrivia (s.kind? r) && (s.childrenOf r).isEmpty

/-- The nodes of a list that are no leaves of trivia. -/
def significant (s : Store) (rs : List Ref) : List Ref :=
  rs.filter fun r => !s.isTriviaLeaf r

/-- A node is the same in both stores but for leaves of trivia among its children. Where these
differ, the node is a construct, which has no text. -/
structure Alike (s s' : Store) (q : Ref) : Prop where
  node : ∃ n children, s.node? q = some n ∧ s'.node? q = some { n with children } ∧
    (children = n.children ∨ n.role = .construct ∧ n.text.get? = none ∧
      ∃ cs cs', n.children = .value cs ∧ children = .value cs')
  significant : s'.significant (s'.childrenOf q) = s.significant (s.childrenOf q)

/-- A place of the store holds no node, or a leaf of trivia. -/
def IsLoose (s : Store) (q : Ref) : Prop :=
  s.node? q = none ∨ s.isTriviaLeaf q = true

/-- The second store is the first with other leaves of trivia. -/
def Respaced (s s' : Store) : Prop :=
  ∀ q, s.Alike s' q ∨ (s.IsLoose q ∧ s'.IsLoose q)

/-- A trivia leaf is a token with a kind of trivia and without children. -/
theorem isTriviaLeaf_iff : s.isTriviaLeaf q = true ↔
    s.role q = .token ∧ (∃ t, s.kind? q = some (.token (.trivia t))) ∧ s.childrenOf q = [] := by
  have htrivia : ∀ kind, Kind.isTrivia kind = true ↔ ∃ t, kind = some (.token (.trivia t)) := by
    intro kind
    unfold Kind.isTrivia TokenKind.isTrivia
    split
    · split <;> simp_all
    · simp_all
  simp only [isTriviaLeaf, Bool.and_eq_true, beq_iff_eq, htrivia, List.isEmpty_iff, and_assoc]

namespace Alike

variable (h : s.Alike s' q)
include h

theorem role_eq : s'.role q = s.role q := by
  obtain ⟨n, children, hn, hn', -⟩ := h.node
  rw [role, role, hn, hn']

theorem kind_eq : s'.kind? q = s.kind? q := by
  obtain ⟨n, children, hn, hn', -⟩ := h.node
  rw [kind?, kind?, hn, hn']
  rfl

theorem text_eq : s'.text? q = s.text? q := by
  obtain ⟨n, children, hn, hn', -⟩ := h.node
  rw [text?, text?, hn, hn']
  rfl

theorem parent_eq : s'.parent? q = s.parent? q := by
  obtain ⟨n, children, hn, hn', -⟩ := h.node
  rw [parent?, parent?, hn, hn']
  rfl

theorem access_kind_eq : s'.access.kind q = s.access.kind q := by
  obtain ⟨n, children, hn, hn', -⟩ := h.node
  simp only [access, hn, hn']

theorem access_text_eq : s'.access.text q = s.access.text q := by
  obtain ⟨n, children, hn, hn', -⟩ := h.node
  simp only [access, hn, hn']

theorem lt_size : q < s'.size := by
  obtain ⟨n, children, -, hn', -⟩ := h.node
  by_contra hge
  cases hn'.symm.trans (Array.getElem?_eq_none (Nat.le_of_not_lt hge))

/-- A node lists the same children, or it is a construct without a text. -/
theorem children_eq_or : s'.childrenOf q = s.childrenOf q ∨
    (s.role q = .construct ∧ s.text? q = none) := by
  obtain ⟨n, children, hn, hn', rfl | ⟨hrole, htext, -⟩⟩ := h.node
  · left
    rw [childrenOf, childrenOf, hn, hn']
  · right
    exact ⟨by rw [role, hn]; exact hrole, by rw [text?, hn]; exact htext⟩

/-- A node lacks a list of children in both stores, or has one in both. -/
theorem access_children : (∃ e, s.access.children q = .error e ∧ s'.access.children q = .error e) ∨
    (s.access.children q = .ok (s.childrenOf q) ∧
      s'.access.children q = .ok (s'.childrenOf q)) := by
  obtain ⟨n, children, hn, hn', hchildren⟩ := h.node
  simp only [access, childrenOf, hn, hn', Option.bind_some]
  obtain rfl | ⟨-, -, cs, cs', hcs, rfl⟩ := hchildren
  · cases hc : n.children <;> simp [Slot.demand, Slot.get?]
  · simp [hcs, Slot.demand, Slot.get?]

end Alike

/-! ## Nodes in their places -/

/-- What is no leaf of trivia, but a node, is the same in both stores. -/
theorem Respaced.alike (h : s.Respaced s') (hlt : q < s.size) (hq : ¬s.isTriviaLeaf q) :
    s.Alike s' q := by
  rcases h q with halike | ⟨hnone | htrivia, -⟩
  · exact halike
  · obtain ⟨n, hn⟩ := exists_node? hlt
    cases hn.symm.trans hnone
  · exact absurd htrivia hq

/-- The parent of a node is no leaf of trivia, so it is the same in both stores. -/
theorem IsForest.alike_parent (h : s.IsForest) (hs : s.Respaced s') (hp : s.parent? c = some p) :
    s.Alike s' p := by
  refine hs.alike (h.lt_size_of_up hp) fun htrivia => ?_
  have hmem : c ∈ s.childrenOf p := h.mem_iff.2 hp
  rw [(isTriviaLeaf_iff.1 htrivia).2.2] at hmem
  cases hmem

/-- The children that are no trivia are the same in both stores. -/
theorem IsForest.alike_child (h : s.IsForest) (hs : s.Respaced s')
    (hc : c ∈ s.significant (s.childrenOf q)) : s.Alike s' c := by
  obtain ⟨hmem, htrivia⟩ := List.mem_filter.1 hc
  exact hs.alike (lt_size_of_parent? (h.mem_iff.1 hmem)) (by simpa using htrivia)

/-- All that is above a node that is the same in both stores is so, too. -/
theorem IsForest.alike_above (h : s.IsForest) (hs : s.Respaced s') (hq : s.Alike s' q) {a : Ref}
    (hup : ReflTransGen s.Up q a) : s.Alike s' a := by
  rcases ReflTransGen.cases_tail hup with rfl | ⟨b, -, hb⟩
  · exact hq
  · exact h.alike_parent hs hb

/-- The ways up from a node are the same in both stores. -/
theorem IsForest.reflTransGen_respaced (h : s.IsForest) (hs : s.Respaced s') (hq : s.Alike s' q)
    {a : Ref} : ReflTransGen s'.Up q a ↔ ReflTransGen s.Up q a := by
  constructor
  · intro hup
    induction hup with
    | refl => exact .refl
    | tail _ hab ih =>
      rw [Up, (h.alike_above hs hq ih).parent_eq] at hab
      exact ih.tail hab
  · intro hup
    induction hup with
    | refl => exact .refl
    | tail hqa hab ih =>
      refine ih.tail ?_
      rw [Up, (h.alike_above hs hq hqa).parent_eq]
      exact hab

/-- What is above a node in one store is above it in the other. -/
theorem IsForest.transGen_respaced (h : s.IsForest) (hs : s.Respaced s') (hq : s.Alike s' q)
    {a : Ref} : TransGen s'.Up q a ↔ TransGen s.Up q a := by
  have hup : ∀ a, s'.Up q a ↔ s.Up q a := fun a => by rw [Up, Up, hq.parent_eq]
  simp only [TransGen.head'_iff, hup]
  refine exists_congr fun p => and_congr_right fun hp => ?_
  exact h.reflTransGen_respaced hs (h.alike_parent hs hp)

/-- The nodes above a node are the same in both stores. -/
theorem IsForest.mem_ancestors_respaced (h : s.IsForest) (hs : s.Respaced s') (hq : s.Alike s' q)
    {a : Ref} : a ∈ s'.ancestors q ↔ a ∈ s.ancestors q := by
  rw [h.mem_ancestors, ← h.transGen_respaced hs hq]
  refine mem_ancestors_of_acyclic fun b hb hround => ?_
  rw [h.reflTransGen_respaced hs hq] at hb
  rw [h.transGen_respaced hs (h.alike_above hs hq hb)] at hround
  exact h.acyclic b hround

/-- What stands around a node is the same in both stores. -/
theorem IsForest.surroundings_respaced (h : s.IsForest) (hs : s.Respaced s') (hq : s.Alike s' q) :
    s'.surroundings q = s.surroundings q := by
  have hkind : ∀ c, (s.parent? c).bind s'.kind? = (s.parent? c).bind s.kind? := by
    intro c
    cases hp : s.parent? c with
    | none => rfl
    | some p => exact (h.alike_parent hs hp).kind_eq
  have hgrandkind : ((s.parent? q).bind s'.parent?).bind s'.kind? =
      ((s.parent? q).bind s.parent?).bind s.kind? := by
    cases hp : s.parent? q with
    | none => rfl
    | some p => rw [Option.bind_some, Option.bind_some, (h.alike_parent hs hp).parent_eq, hkind]
  have hannotated : ∀ f : Option Kind → Bool, (s'.ancestors q).any (fun a => f (s'.kind? a)) =
      (s.ancestors q).any fun a => f (s.kind? a) := by
    intro f
    rw [Bool.eq_iff_iff]
    simp only [List.any_eq_true, h.mem_ancestors_respaced hs hq]
    refine exists_congr fun a => and_congr_right fun ha => ?_
    rw [(h.alike_above hs hq (h.mem_ancestors.1 ha).to_reflTransGen).kind_eq]
  simp only [surroundings, hq.parent_eq, hkind, hgrandkind, hannotated]

/-! ## Lists of children side by side -/

/-- Two lists hold the same nodes in the same order, up to leaves of trivia. -/
inductive Aligned (s s' : Store) : List Ref → List Ref → Prop
  | nil : Aligned s s' [] []
  | left {c : Ref} {cs cs' : List Ref} (hc : s.isTriviaLeaf c = true) (h : Aligned s s' cs cs') :
      Aligned s s' (c :: cs) cs'
  | right {c : Ref} {cs cs' : List Ref} (hc : s'.isTriviaLeaf c = true) (h : Aligned s s' cs cs') :
      Aligned s s' cs (c :: cs')
  | both {c : Ref} {cs cs' : List Ref} (hc : s.Alike s' c) (h : Aligned s s' cs cs') :
      Aligned s s' (c :: cs) (c :: cs')

/-- Trivia at the start of the second list leaves lists aligned. -/
theorem Aligned.append_right {cs cs' : List Ref} (h : Aligned s s' cs cs') :
    ∀ {ts : List Ref}, (∀ t ∈ ts, s'.isTriviaLeaf t = true) → Aligned s s' cs (ts ++ cs')
  | [], _ => h
  | _ :: _, hts => .right (hts _ (by simp)) (h.append_right fun t ht => hts t (by simp [ht]))

/-- Lists of which the same is left without the leaves of trivia are aligned. -/
theorem aligned_of_significant : ∀ {cs cs' : List Ref}, (∀ c ∈ s.significant cs, s.Alike s' c) →
    s'.significant cs' = s.significant cs → Aligned s s' cs cs'
  | [], cs', _, heq => by
    have htrivia : ∀ t ∈ cs', s'.isTriviaLeaf t = true := by
      simpa [significant] using heq
    simpa using Aligned.nil.append_right htrivia
  | c :: cs, cs', halike, heq => by
    by_cases hc : s.isTriviaLeaf c
    · have hskip : s.significant (c :: cs) = s.significant cs := by simp [significant, hc]
      rw [hskip] at halike heq
      exact .left hc (aligned_of_significant halike heq)
    · have hkeep : s.significant (c :: cs) = c :: s.significant cs := by simp [significant, hc]
      rw [hkeep] at halike heq
      obtain ⟨hc, halike⟩ := List.forall_mem_cons.1 halike
      obtain ⟨ts, rest, rfl, hts, -, hrest⟩ := List.filter_eq_cons_iff.1 heq
      have ih := aligned_of_significant halike hrest
      exact (Aligned.both hc ih).append_right (by simpa using hts)

/-- The children of a node are aligned. -/
theorem IsForest.aligned (h : s.IsForest) (hs : s.Respaced s') (hq : s.Alike s' q) :
    Aligned s s' (s.childrenOf q) (s'.childrenOf q) :=
  aligned_of_significant (fun _ hc => h.alike_child hs hc) hq.significant

/-! ## The canonical text -/

/-- Trivia is not written. -/
theorem writeTip_of_isTriviaLeaf (hc : s.isTriviaLeaf c) (d : Draft) : s.writeTip d c = d := by
  obtain ⟨-, ⟨t, hkind⟩, -⟩ := isTriviaLeaf_iff.1 hc
  refine if_neg ?_
  simp [Token.isVisible, tokenAt, hkind, Kind.isTrivia, TokenKind.isTrivia]

theorem writeFrom_of_isTriviaLeaf (hc : s.isTriviaLeaf c) {fuel : Nat} (hfuel : 0 < fuel)
    (d : Draft) : s.writeFrom fuel c d = .ok d := by
  obtain ⟨fuel, rfl⟩ := Nat.exists_eq_succ_of_ne_zero (Nat.ne_of_gt hfuel)
  rw [writeFrom, (isTriviaLeaf_iff.1 hc).2.2]
  exact congrArg Except.ok (writeTip_of_isTriviaLeaf hc d)

/-- Writing one of two aligned lists is writing the tips below the other one. -/
theorem Aligned.foldlM_writeFrom {cs cs' : List Ref} (h : Aligned s s' cs cs') {fuel : Nat}
    (hfuel : 0 < fuel) (hcs : ∀ c ∈ cs, s.Alike s' c →
      ∀ d, s'.writeFrom fuel c d = .ok ((s.tips c).foldl s.writeTip d)) (d : Draft) :
    cs'.foldlM (fun d c => s'.writeFrom fuel c d) d =
      .ok ((cs.flatMap s.tips).foldl s.writeTip d) := by
  induction h generalizing d with
  | nil => rfl
  | left hc _ ih =>
    rw [ih fun c hc => hcs c (List.mem_cons_of_mem _ hc), List.flatMap_cons,
      tips_leaf (isTriviaLeaf_iff.1 hc).2.2, List.singleton_append, List.foldl_cons,
      writeTip_of_isTriviaLeaf hc]
  | right hc _ ih =>
    rw [List.foldlM_cons, writeFrom_of_isTriviaLeaf hc hfuel]
    exact ih hcs d
  | both hc _ ih =>
    rw [List.foldlM_cons, hcs _ (by simp) hc, List.flatMap_cons, List.foldl_append]
    exact ih (fun c hc => hcs c (List.mem_cons_of_mem _ hc)) _

/-- Writing what is below a node in the second store is writing its tips in the first. -/
theorem IsForest.writeFrom_respaced (h : s.IsForest) (hs : s.Respaced s') (hq : s.Alike s' q) :
    ∀ d, s'.writeFrom s'.depth q d = .ok ((s.tips q).foldl s.writeTip d) := by
  refine h.fuel_induction (fun _ _ hup => (h.alike_parent hs hup).lt_size)
    (P := fun fuel q => s.Alike s' q → ∀ d,
      s'.writeFrom fuel q d = .ok ((s.tips q).foldl s.writeTip d))
    (fun fuel q hspare ih hq d => ?_) q hq
  have hbelow := (h.aligned hs hq).foldlM_writeFrom (hspare hq.lt_size) ih d
  have htip : d.writeToken (s'.surroundings q) (s'.tokenAt q) = s.writeTip d q := by
    rw [h.surroundings_respaced hs hq, tokenAt, hq.kind_eq, hq.text_eq]
    rfl
  -- a construct that has children in one store only writes nothing, as it has no text
  have hnothing : s'.childrenOf q ≠ s.childrenOf q → s.writeTip d q = d := by
    intro hne
    obtain ⟨-, htext⟩ := hq.children_eq_or.resolve_left hne
    rw [writeTip, tokenAt, htext, Draft.writeToken_none]
  rw [writeFrom]
  split
  · next hcs' =>
    rw [hcs'] at hbelow hnothing
    by_cases hcs : s.childrenOf q = []
    · rw [tips_leaf hcs, htip]
      rfl
    · rw [h.tips_of_children hcs, ← hbelow, htip, hnothing (Ne.symm hcs)]
      rfl
  · next hcs' =>
    rw [hbelow]
    by_cases hcs : s.childrenOf q = []
    · rw [tips_leaf hcs, hcs, List.foldl_cons, hnothing (by rw [hcs]; exact hcs')]
      rfl
    · rw [h.tips_of_children hcs]

/-- A loose node has no canonical text. -/
theorem canonical_of_isLoose (hq : s.IsLoose q) : s.canonical q = .ok [] := by
  rcases hq with hnone | htrivia
  · have hchildren : s.childrenOf q = [] := by rw [childrenOf, hnone]; rfl
    have htext : s.text? q = none := by rw [text?, hnone]; rfl
    rw [canonical, depth, writeFrom, hchildren, tokenAt, htext, Draft.writeToken_none]
    rfl
  · rw [canonical, writeFrom_of_isTriviaLeaf htrivia (show 0 < s.depth from Nat.succ_pos _)]
    rfl

/-- Other leaves of trivia do not change the canonical text of any node. -/
theorem IsForest.canonical_respaced (h : s.IsForest) (hs : s.Respaced s') (q : Ref) :
    s'.canonical q = s.canonical q := by
  rcases hs q with hq | ⟨hq, hq'⟩
  · rw [h.canonical_tips, canonical, h.writeFrom_respaced hs hq]
    rfl
  · rw [canonical_of_isLoose hq, canonical_of_isLoose hq']

/-! ## Putting trivia in and taking it out -/

/-- A construct without a text that has a list of children. -/
structure IsPlain (s : Store) (p : Ref) : Prop where
  role : s.role p = .construct
  text : s.text? p = none
  hasList : s.hasList p = true

theorem IsPlain.ne_of_isTriviaLeaf (hp : s.IsPlain p) (hc : s.isTriviaLeaf c) : c ≠ p := by
  rintro rfl
  cases hp.role.symm.trans (isTriviaLeaf_iff.1 hc).1

/-- An operation puts a leaf of trivia among the children of a construct, or takes one out. -/
inductive EditsTrivia (s : Store) : Surgery → Prop
  | add {p c : Ref} (hp : s.IsPlain p) (hc : s.isTriviaLeaf c = true) :
      EditsTrivia s (.add p (some c))
  | insert {p c : Ref} {index : Int} (hp : s.IsPlain p) (hc : s.isTriviaLeaf c = true)
      (hindex : isIndex index = true) : EditsTrivia s (.insert p index (some c))
  | delete {p c : Ref} (hp : s.IsPlain p) (hc : s.isTriviaLeaf c = true)
      (hparent : s.parent? c = some p) (hmem : c ∈ s.childrenOf p) : EditsTrivia s (.delete c)

/-- Each operation of a run puts a leaf of trivia in or takes one out. -/
def EditsTriviaAll (s : Store) : List Surgery → Prop
  | [] => True
  | op :: ops => s.EditsTrivia op ∧ (s.apply op).1.EditsTriviaAll ops

theorem Alike.refl (hq : q < s.size) : s.Alike s q := by
  obtain ⟨n, hn⟩ := exists_node? hq
  exact ⟨⟨n, n.children, hn, hn, .inl rfl⟩, rfl⟩

/-- A node that is the same after one change and after the next is so after both. -/
theorem Alike.trans {s'' : Store} (h : s.Alike s' q) (h' : s'.Alike s'' q) : s.Alike s'' q := by
  obtain ⟨n, children, hn, hn', hchildren⟩ := h.node
  obtain ⟨n', children', hm, hn'', hchildren'⟩ := h'.node
  obtain rfl := Option.some.inj (hn'.symm.trans hm)
  refine ⟨⟨n, children', hn, hn'', ?_⟩, h'.significant.trans h.significant⟩
  rcases hchildren with rfl | ⟨hrole, htext, cs, cs', hcs, rfl⟩
  · exact hchildren'
  · rcases hchildren' with rfl | ⟨-, -, _, cs'', -, rfl⟩
    · exact .inr ⟨hrole, htext, cs, cs', hcs, rfl⟩
    · exact .inr ⟨hrole, htext, cs, cs'', hcs, rfl⟩

/-- A node is a leaf of trivia in both stores or in none. -/
theorem Alike.isTriviaLeaf_eq (h : s.Alike s' q) : s'.isTriviaLeaf q = s.isTriviaLeaf q := by
  rw [isTriviaLeaf, isTriviaLeaf, h.role_eq, h.kind_eq]
  rcases h.children_eq_or with heq | ⟨hrole, -⟩
  · rw [heq]
  · rw [hrole]
    rfl

theorem Alike.isLoose_iff (h : s.Alike s' q) : s'.IsLoose q ↔ s.IsLoose q := by
  obtain ⟨n, children, hn, hn', -⟩ := h.node
  rw [IsLoose, IsLoose, hn, hn', h.isTriviaLeaf_eq]
  simp

theorem Respaced.refl (s : Store) : s.Respaced s := by
  intro q
  rcases Nat.lt_or_ge q s.size with hlt | hge
  · exact .inl (.refl hlt)
  · have hnone : s.IsLoose q := .inl (Array.getElem?_eq_none hge)
    exact .inr ⟨hnone, hnone⟩

/-- Changing the trivia twice is changing the trivia. -/
theorem Respaced.trans {s'' : Store} (h : s.Respaced s') (h' : s'.Respaced s'') :
    s.Respaced s'' := by
  intro q
  rcases h q with hq | ⟨hq, hq'⟩
  · rcases h' q with hq' | ⟨hq', hq''⟩
    · exact .inl (hq.trans hq')
    · exact .inr ⟨hq.isLoose_iff.1 hq', hq''⟩
  · rcases h' q with hq'' | ⟨-, hq''⟩
    · exact .inr ⟨hq, hq''.isLoose_iff.2 hq'⟩
    · exact .inr ⟨hq, hq''⟩

theorem exists_of_hasList (h : s.hasList p) :
    ∃ n cs, s.node? p = some n ∧ n.children = .value cs := by
  rw [hasList, Option.isSome_iff_exists] at h
  obtain ⟨cs, hcs⟩ := h
  obtain ⟨n, hn, hslot⟩ := Option.bind_eq_some_iff.1 hcs
  refine ⟨n, cs, hn, ?_⟩
  cases hc : n.children <;> simp_all [Slot.get?]

/-- A leaf of trivia in a list does not count. -/
theorem significant_filter (hc : s.isTriviaLeaf c) (cs : List Ref) :
    s.significant (cs.filter (· ≠ c)) = s.significant cs := by
  rw [significant, List.filter_filter, significant]
  refine List.filter_congr fun q _ => ?_
  by_cases hq : q = c <;> simp [hq, hc]

/-- Where a construct lists a leaf of trivia and where the link of the leaf leads may change. -/
theorem respaced_relist {f : List Ref → List Ref} {parent : Option Ref} (hp : s.IsPlain p)
    (hc : s.isTriviaLeaf c) (hf : ∀ cs, (f cs).filter (· ≠ c) = cs.filter (· ≠ c)) :
    s.Respaced ((s.modifyChildren p f).setParent c parent) := by
  have hne := hp.ne_of_isTriviaLeaf hc
  have hlabel : ∀ q, ((s.modifyChildren p f).setParent c parent).label q = s.label q := by simp
  have hchildren : ∀ q, ((s.modifyChildren p f).setParent c parent).childrenOf q =
      if q = p then f (s.childrenOf p) else s.childrenOf q := fun q => by
    rw [childrenOf_setParent, childrenOf_modifyChildren s q f hp.hasList]
  have htrivia : ∀ q, ((s.modifyChildren p f).setParent c parent).isTriviaLeaf q =
      s.isTriviaLeaf q := by
    intro q
    obtain ⟨hrole, hkind, -⟩ : _ ∧ _ ∧ _ := by simpa only [label, Prod.mk.injEq] using hlabel q
    rw [isTriviaLeaf, isTriviaLeaf, hrole, hkind, hchildren]
    split
    · next hq =>
      rw [hq, hp.role]
      rfl
    · rfl
  have hsignificant : ∀ cs, ((s.modifyChildren p f).setParent c parent).significant cs =
      s.significant cs := fun cs => by simp only [significant, htrivia]
  intro q
  by_cases hqc : q = c
  · subst hqc
    exact .inr ⟨.inr hc, .inr ((htrivia q).trans hc)⟩
  by_cases hqp : q = p
  · subst hqp
    obtain ⟨n, cs, hn, hcs⟩ := exists_of_hasList hp.hasList
    have hrole : n.role = .construct := by simpa [role, hn] using hp.role
    have htext : n.text.get? = none := by simpa [text?, hn] using hp.text
    refine .inl ⟨⟨n, .value (f cs), hn, ?_, .inr ⟨hrole, htext, cs, f cs, hcs, rfl⟩⟩, ?_⟩
    · rw [setParent, node?_modify, if_neg hne, modifyChildren, node?_modify, if_pos rfl, hn,
        Option.map_some, hcs]
    · rw [hsignificant, hchildren, if_pos rfl, ← significant_filter hc, hf, significant_filter hc]
  · have hnode : ((s.modifyChildren p f).setParent c parent).node? q = s.node? q := by
      rw [setParent, node?_modify, if_neg (Ne.symm hqc), modifyChildren, node?_modify,
        if_neg (Ne.symm hqp)]
    cases hn : s.node? q with
    | none => exact .inr ⟨.inl hn, .inl (hnode.trans hn)⟩
    | some n =>
      refine .inl ⟨⟨n, n.children, hn, hnode.trans hn, .inl rfl⟩, ?_⟩
      rw [hsignificant, hchildren, if_neg hqp]

/-- Apart from one node, an insertion of it leaves a list as it is. -/
theorem filter_insertIdx {c : Ref} : ∀ (cs : List Ref) (i : Nat),
    (cs.insertIdx i c).filter (· ≠ c) = cs.filter (· ≠ c)
  | cs, 0 => by simp
  | [], i + 1 => by simp
  | d :: cs, i + 1 => by
    rw [List.insertIdx_succ_cons, List.filter_cons, List.filter_cons, filter_insertIdx cs i]

/-- So does erasing it. -/
theorem filter_erase {c : Ref} : ∀ cs : List Ref, (cs.erase c).filter (· ≠ c) = cs.filter (· ≠ c)
  | [] => rfl
  | d :: cs => by
    by_cases hd : d = c
    · simp [hd]
    · rw [List.erase_cons_tail (by simpa using hd), List.filter_cons, List.filter_cons,
        filter_erase cs]

/-- An operation that puts a leaf of trivia in or takes one out succeeds. -/
theorem respaced_apply {op : Surgery} (h : s.EditsTrivia op) :
    (s.apply op).2 = .ok () ∧ s.Respaced (s.apply op).1 := by
  cases h with
  | @add p c hp hc =>
    have hnode : s.isNode p = true := by rw [isNode, hp.role]; rfl
    rw [apply, only, if_pos hnode]
    exact ⟨rfl, respaced_relist hp hc fun cs => by simp⟩
  | @insert p c index hp hc hindex =>
    have hnode : s.isNode p = true := by rw [isNode, hp.role]; rfl
    rw [apply, if_pos hnode]
    simp only [insertChild, hindex, if_true]
    rw [modifyChildren_setParent]
    exact ⟨trivial, respaced_relist hp hc fun cs => filter_insertIdx cs _⟩
  | @delete p c hp hc hparent hmem =>
    have hnode : s.isNode c = true := by rw [isNode, (isTriviaLeaf_iff.1 hc).1]; rfl
    obtain ⟨n, cs, hn, hcs⟩ := exists_of_hasList hp.hasList
    have hlisted : cs.contains c = true := by
      simpa [childrenOf, hn, hcs, Slot.get?] using hmem
    rw [apply, if_pos hnode, delete, hparent]
    simp only [hn, Option.map_some, hcs, hlisted, if_true, settle]
    exact ⟨trivial, respaced_relist hp hc filter_erase⟩

/-- So does a run of them, and the store it leaves differs from the first by leaves of trivia. -/
theorem respaced_applyAll : ∀ {ops : List Surgery} {s : Store}, s.EditsTriviaAll ops →
    ∃ s', s.applyAll ops = (s', .ok ()) ∧ s.Respaced s'
  | [], s, _ => ⟨s, rfl, .refl s⟩
  | op :: ops, s, h => by
    obtain ⟨hop, hops⟩ := h
    obtain ⟨hok, hstep⟩ := respaced_apply hop
    obtain ⟨s', happly, hrun⟩ := respaced_applyAll hops
    refine ⟨s', ?_, hstep.trans hrun⟩
    rw [applyAll, show s.apply op = ((s.apply op).1, .ok ()) from Prod.ext rfl hok]
    exact happly

end Store

end JavaText
