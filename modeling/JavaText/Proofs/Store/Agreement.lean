import JavaText.Proofs.Store.Equality

/-!
# Nodes that form a tree

`Store.agrees` says that the nodes below a node form a tree. All ways down from such a node end, so
it can be compared with others (`Store.isComparable_of_agrees`), and two such nodes are identical in
structure just if they form the same tree (`Store.identical_iff_of_agrees`).
-/

namespace JavaText

namespace Store

variable {s : Store}

/-- A node agrees with a token if it has its kind and text and no children. -/
theorem agrees_token {t : Token} {r : Ref} : s.agrees (.token t) r = true ↔
    s.label r = (.token, t.kind, t.text) ∧ s.childrenOf r = [] := by
  simp only [agrees, label, Bool.and_eq_true, beq_iff_eq, List.isEmpty_iff, Prod.mk.injEq]
  constructor
  · rintro ⟨⟨⟨hrole, hkind⟩, hchildren⟩, htext⟩
    exact ⟨⟨hrole, hkind.symm, htext.symm⟩, hchildren⟩
  · rintro ⟨⟨hrole, hkind, htext⟩, hchildren⟩
    exact ⟨⟨⟨hrole, hkind.symm⟩, hchildren⟩, htext.symm⟩

theorem parts_of_agrees_token {t : Token} {r : Ref} (h : s.agrees (.token t) r) :
    s.role r = .token ∧ s.kind? r = t.kind ∧ s.text? r = t.text ∧ s.childrenOf r = [] := by
  obtain ⟨hlabel, hchildren⟩ := agrees_token.1 h
  simp only [label, Prod.mk.injEq] at hlabel
  exact ⟨hlabel.1, hlabel.2.1, hlabel.2.2, hchildren⟩

/-- A node agrees with a construct if it has its kind and its children agree with those of the
construct. -/
theorem agrees_construct {kind : Option Kind} {ts : List Tree} {r : Ref} :
    s.agrees (.construct kind ts) r = true ↔
      (s.label r).1 = .construct ∧ (s.label r).2.1 = kind ∧
        s.agreesAll ts (s.childrenOf r) = true := by
  simp only [agrees, label, Bool.and_eq_true, beq_iff_eq, and_assoc]
  rw [@eq_comm _ kind]

theorem parts_of_agrees_construct {kind : Option Kind} {ts : List Tree} {r : Ref}
    (h : s.agrees (.construct kind ts) r) :
    s.role r = .construct ∧ s.kind? r = kind ∧ s.agreesAll ts (s.childrenOf r) = true :=
  agrees_construct.1 h

theorem agreesAll_cons {t : Tree} {ts : List Tree} {r : Ref} {rs : List Ref} :
    s.agreesAll (t :: ts) (r :: rs) = true ↔ s.agrees t r = true ∧ s.agreesAll ts rs = true := by
  rw [agreesAll, Bool.and_eq_true]

mutual

/-- A node that forms a tree can be compared. -/
theorem isComparable_of_agrees : ∀ {t : Tree} {r : Ref}, s.agrees t r → s.IsComparable r
  | .token t, r, h => by
    obtain ⟨hrole, -, -, hchildren⟩ := parts_of_agrees_token h
    refine .of_children (by rw [isNode, hrole]; rfl) ?_
    rw [hchildren]
    exact List.forall_mem_nil _
  | .construct k ts, r, h => by
    obtain ⟨hrole, -, hts⟩ := parts_of_agrees_construct h
    exact .of_children (by rw [isNode, hrole]; rfl) (isComparable_of_agreesAll hts)

theorem isComparable_of_agreesAll : ∀ {ts : List Tree} {rs : List Ref}, s.agreesAll ts rs →
    ∀ r ∈ rs, s.IsComparable r
  | [], [], _ => List.forall_mem_nil _
  | t :: ts, r :: rs, h => by
    obtain ⟨ht, hts⟩ := agreesAll_cons.1 h
    exact List.forall_mem_cons.2 ⟨isComparable_of_agrees ht, isComparable_of_agreesAll hts⟩

end

mutual

/-- Two nodes that form trees are identical in structure just if the trees are equal. -/
theorem identical_iff_of_agrees : ∀ {t u : Tree} {r q : Ref}, s.agrees t r → s.agrees u q →
    (s.Identical r q ↔ t = u)
  | .token t, .token u, r, q, ht, hu => by
    obtain ⟨hrole, hkind, htext, hchildren⟩ := parts_of_agrees_token ht
    obtain ⟨hrole', hkind', htext', hchildren'⟩ := parts_of_agrees_token hu
    rw [identical_iff, face_eq_iff, hrole, hkind, htext, hchildren, hrole', hkind', htext',
      hchildren', Tree.token.injEq]
    rcases t with ⟨kind, text⟩
    rcases u with ⟨kind', text'⟩
    simp
  | .construct k ts, .construct l us, r, q, ht, hu => by
    obtain ⟨hrole, hkind, hts⟩ := parts_of_agrees_construct ht
    obtain ⟨hrole', hkind', hus⟩ := parts_of_agrees_construct hu
    rw [identical_iff, forall₂_identical_iff hts hus, face_eq_iff, hrole, hrole', hkind, hkind',
      Tree.construct.injEq]
    simp
  | .token t, .construct l us, r, q, ht, hu => by
    refine iff_of_false (fun h => ?_) nofun
    have hrole := (face_eq_iff.1 (identical_iff.1 h).1).1
    rw [(parts_of_agrees_token ht).1, (parts_of_agrees_construct hu).1] at hrole
    cases hrole
  | .construct k ts, .token u, r, q, ht, hu => by
    refine iff_of_false (fun h => ?_) nofun
    have hrole := (face_eq_iff.1 (identical_iff.1 h).1).1
    rw [(parts_of_agrees_construct ht).1, (parts_of_agrees_token hu).1] at hrole
    cases hrole

theorem forall₂_identical_iff : ∀ {ts us : List Tree} {rs qs : List Ref}, s.agreesAll ts rs →
    s.agreesAll us qs → (List.Forall₂ s.Identical rs qs ↔ ts = us)
  | [], [], [], [], _, _ => by simp
  | t :: ts, u :: us, r :: rs, q :: qs, hts, hus => by
    obtain ⟨ht, hts⟩ := agreesAll_cons.1 hts
    obtain ⟨hu, hus⟩ := agreesAll_cons.1 hus
    rw [List.forall₂_cons, identical_iff_of_agrees ht hu, forall₂_identical_iff hts hus,
      List.cons.injEq]
  | [], _ :: _, [], _ :: _, _, _ => by simp
  | _ :: _, [], _ :: _, [], _, _ => by simp

end

end Store

end JavaText
