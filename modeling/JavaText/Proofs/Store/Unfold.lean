import JavaText.Proofs.Store.Forest
import JavaText.Store.Export

/-!
# The document below a node

`Store.Forms` says that the objects below a node, met through constructs, lists and tables, form a
given document: tokens, plain values and nothing are leaves of it. There is at most one such
document (`Store.Forms.unique`). The parts of an object form smaller documents than the object
(`Store.Forms.exists_part`), so no object that forms a document is met below itself
(`Store.Forms.not_containsItself`).

`Store.holds` says that the nodes below a node form a given tree, of which there is one at most
(`Store.holds_unique`). The document is that of the tree then (`Store.forms_of_holds`), and every
document that is formed is one of a tree if nothing that is met stands for anything but a node
(`Store.Forms.exists_holds`).

`Store.Meets` is the relation between a node and what the walk meets below it, and `Store.Reaches`
that between a node and the objects below it on ways through constructs only.
-/

namespace JavaText

/-! ## Documents of holders -/

namespace Holder

/-- No document is lost when keys are put to them. -/
theorem sizeOf_le_zip : ∀ (members : List (Text × Ref)) (js : List Json),
    js.length = members.length → sizeOf js ≤ sizeOf ((members.map Prod.fst).zip js)
  | [], [], _ => Nat.le_refl _
  | m :: members, j :: js, h => by
    have ih := sizeOf_le_zip members js (Nat.succ.inj h)
    rw [List.map_cons, List.zip_cons_cons, List.cons.sizeOf_spec, List.cons.sizeOf_spec,
      Prod.mk.sizeOf_spec]
    omega
  | [], _ :: _, h => by cases h
  | _ :: _, [], h => by cases h

/-- The document of a holder is larger than those of its parts. -/
theorem sizeOf_lt_make {h : Holder} {js : List Json}
    (hlength : js.length = h.parts.length) : sizeOf js < sizeOf (h.make js) := by
  cases h with
  | construct kind children =>
    simp only [make, Json.ofConstruct, Json.object.sizeOf_spec, List.cons.sizeOf_spec,
      Prod.mk.sizeOf_spec, Json.array.sizeOf_spec]
    omega
  | list items =>
    rw [make, Json.array.sizeOf_spec]
    omega
  | table members =>
    have hle := sizeOf_le_zip members js (by rwa [parts, List.length_map] at hlength)
    rw [make, Json.object.sizeOf_spec]
    omega

end Holder

namespace Store

/-! ## What a store holds -/

mutual

/-- Whether the nodes below a node form a tree; what a token lists as its children does not count.
-/
def holds (s : Store) : Tree → Ref → Bool
  | .token t, r => s.role r == .token && t.kind == s.kind? r && t.text == s.text? r
  | .construct kind ts, r =>
    s.role r == .construct && kind == s.kind? r && s.holdsAll ts (s.childrenOf r)

/-- Whether the nodes below some nodes form trees in pairs. -/
def holdsAll (s : Store) : List Tree → List Ref → Bool
  | [], [] => true
  | t :: ts, r :: rs => s.holds t r && s.holdsAll ts rs
  | _, _ => false

end

variable {s : Store}

theorem holds_token {t : Token} {r : Ref} : s.holds (.token t) r = true ↔
    s.role r = .token ∧ t = { kind := s.kind? r, text := s.text? r } := by
  simp only [holds, Bool.and_eq_true, beq_iff_eq]
  constructor
  · rintro ⟨⟨hrole, hkind⟩, htext⟩
    exact ⟨hrole, by rw [← hkind, ← htext]⟩
  · rintro ⟨hrole, rfl⟩
    exact ⟨⟨hrole, rfl⟩, rfl⟩

theorem holds_construct {kind : Option Kind} {ts : List Tree} {r : Ref} :
    s.holds (.construct kind ts) r = true ↔
      s.role r = .construct ∧ kind = s.kind? r ∧ s.holdsAll ts (s.childrenOf r) = true := by
  simp [holds, and_assoc]

theorem holdsAll_cons {t : Tree} {ts : List Tree} {r : Ref} {rs : List Ref} :
    s.holdsAll (t :: ts) (r :: rs) = true ↔ s.holds t r = true ∧ s.holdsAll ts rs = true := by
  simp [holdsAll]

mutual

/-- The nodes below a node form one tree at most. -/
theorem holds_unique : ∀ {t u : Tree} {r : Ref}, s.holds t r → s.holds u r → t = u
  | .token t, .token u, r, ht, hu => by
    rw [(holds_token.1 ht).2, (holds_token.1 hu).2]
  | .construct k ts, .construct l us, r, ht, hu => by
    obtain ⟨-, rfl, hts⟩ := holds_construct.1 ht
    obtain ⟨-, rfl, hus⟩ := holds_construct.1 hu
    rw [holdsAll_unique hts hus]
  | .token _, .construct _ _, r, ht, hu => by
    cases (holds_token.1 ht).1.symm.trans (holds_construct.1 hu).1
  | .construct _ _, .token _, r, ht, hu => by
    cases (holds_construct.1 ht).1.symm.trans (holds_token.1 hu).1

theorem holdsAll_unique : ∀ {ts us : List Tree} {rs : List Ref}, s.holdsAll ts rs →
    s.holdsAll us rs → ts = us
  | [], [], [], _, _ => rfl
  | t :: ts, u :: us, r :: rs, hts, hus => by
    obtain ⟨ht, hts⟩ := holdsAll_cons.1 hts
    obtain ⟨hu, hus⟩ := holdsAll_cons.1 hus
    rw [holds_unique ht hu, holdsAll_unique hts hus]
  | [], _ :: _, [], _, hus => by cases hus
  | [], _ :: _, _ :: _, hts, _ => by cases hts
  | _ :: _, [], [], hts, _ => by cases hts
  | _ :: _, [], _ :: _, _, hus => by cases hus

end

/-! ## What is formed -/

mutual

/-- The objects below a node form a document. -/
inductive Forms (s : Store) : Json → Ref → Prop
  | value {j : Json} {r : Ref} (hrole : s.documentRole r = .value j) : s.Forms j r
  | holder {h : Holder} {js : List Json} {r : Ref} (hrole : s.documentRole r = .holder h)
      (hbelow : s.FormAll js h.parts) : s.Forms (h.make js) r

/-- The objects below some nodes form documents in pairs. -/
inductive FormAll (s : Store) : List Json → List Ref → Prop
  | nil : s.FormAll [] []
  | cons {j : Json} {js : List Json} {r : Ref} {rs : List Ref} (h : s.Forms j r)
      (hall : s.FormAll js rs) : s.FormAll (j :: js) (r :: rs)

end

mutual

/-- The objects below a node form one document at most. -/
theorem Forms.unique : ∀ {j k : Json} {r : Ref}, s.Forms j r → s.Forms k r → j = k
  | _, _, _, .value hrole, .value hrole' => by
    cases hrole.symm.trans hrole'
    rfl
  | _, _, _, .value hrole, .holder hrole' _ => by cases hrole.symm.trans hrole'
  | _, _, _, .holder hrole _, .value hrole' => by cases hrole.symm.trans hrole'
  | _, _, _, .holder hrole hbelow, .holder hrole' hbelow' => by
    obtain rfl := DocumentRole.holder.inj (hrole.symm.trans hrole')
    rw [FormAll.unique hbelow hbelow']

theorem FormAll.unique : ∀ {js ks : List Json} {rs : List Ref}, s.FormAll js rs →
    s.FormAll ks rs → js = ks
  | _, _, _, .nil, .nil => rfl
  | _, _, _, .cons h hall, .cons h' hall' => by rw [Forms.unique h h', FormAll.unique hall hall']

end

/-- There are as many documents as objects. -/
theorem FormAll.length_eq {js : List Json} {rs : List Ref} (h : s.FormAll js rs) :
    js.length = rs.length := by
  induction rs generalizing js with
  | nil =>
    cases h with
    | nil => rfl
  | cons r rs ih =>
    cases h with
    | cons _ hall => rw [List.length_cons, List.length_cons, ih hall]

theorem FormAll.exists_of_mem {js : List Json} {rs : List Ref} {p : Ref} (h : s.FormAll js rs)
    (hp : p ∈ rs) : ∃ j ∈ js, s.Forms j p := by
  induction rs generalizing js with
  | nil => cases hp
  | cons r rs ih =>
    cases h with
    | cons h hall =>
      rcases List.mem_cons.1 hp with rfl | hp
      · exact ⟨_, List.mem_cons_self, h⟩
      · obtain ⟨j, hj, hforms⟩ := ih hall hp
        exact ⟨j, List.mem_cons_of_mem _ hj, hforms⟩

/-- A construct stands in a document with its children. -/
theorem documentRole_construct {r : Ref} (hrole : s.role r = .construct) :
    s.documentRole r = .holder (.construct (s.kind? r) (s.childrenOf r)) := by
  simp only [documentRole, hrole]

mutual

/-- The nodes of a tree form the document of the tree. -/
theorem forms_of_holds : ∀ {t : Tree} {r : Ref}, s.holds t r → s.Forms t.toJson r
  | .token t, r, h => by
    obtain ⟨hrole, rfl⟩ := holds_token.1 h
    exact .value (by simp only [documentRole, hrole, Tree.toJson])
  | .construct k ts, r, h => by
    obtain ⟨hrole, rfl, hts⟩ := holds_construct.1 h
    exact .holder (documentRole_construct hrole) (formAll_of_holdsAll hts)

theorem formAll_of_holdsAll : ∀ {ts : List Tree} {rs : List Ref}, s.holdsAll ts rs →
    s.FormAll (Tree.toJsonAll ts) rs
  | [], [], _ => .nil
  | t :: ts, r :: rs, h =>
    .cons (forms_of_holds (holdsAll_cons.1 h).1) (formAll_of_holdsAll (holdsAll_cons.1 h).2)
  | [], _ :: _, h => by cases h
  | _ :: _, [], h => by cases h

end

/-- What stands in a document with its parts is in the store. -/
theorem lt_size_of_holder {r : Ref} {h : Holder} (hrole : s.documentRole r = .holder h) :
    r < s.size := by
  rcases Nat.lt_or_ge r s.size with hlt | hge
  · exact hlt
  · have hnone : s.node? r = none := Array.getElem?_eq_none hge
    rw [documentRole, role, hnone] at hrole
    cases hrole

/-! ## Nodes below a node -/

/-- A node is below another one: it is the other one, or the other one is a construct and the node
is below one of its children. -/
inductive Reaches (s : Store) : Ref → Ref → Prop
  | refl (r : Ref) : s.Reaches r r
  | step {r p q : Ref} (hrole : s.role r = .construct) (hmem : p ∈ s.childrenOf r)
      (hq : s.Reaches p q) : s.Reaches r q

/-- What holds of all nodes below a node is found by walking down. -/
theorem forall_reaches_iff {P : Ref → Prop} {r : Ref} : (∀ q, s.Reaches r q → P q) ↔
    P r ∧ (s.role r = .construct → ∀ p ∈ s.childrenOf r, ∀ q, s.Reaches p q → P q) := by
  constructor
  · intro h
    exact ⟨h r (.refl r), fun hrole p hp q hq => h q (.step hrole hp hq)⟩
  · rintro ⟨hr, hbelow⟩ q hq
    cases hq with
    | refl => exact hr
    | step hrole hmem hq => exact hbelow hrole _ hmem q hq

/-! ## What is met -/

/-- The objects that a document shows in an object. -/
def partsOf (s : Store) (r : Ref) : List Ref :=
  match s.documentRole r with
  | .holder h => h.parts
  | .value _ | .foreign _ => []

theorem partsOf_holder {r : Ref} {h : Holder} (hrole : s.documentRole r = .holder h) :
    s.partsOf r = h.parts := by
  rw [partsOf, hrole]

/-- An object is one of the parts of another one. -/
def Has (s : Store) (r p : Ref) : Prop :=
  p ∈ s.partsOf r

/-- The walk down from an object meets another one, or the object itself. -/
def Meets (s : Store) : Ref → Ref → Prop :=
  Relation.ReflTransGen s.Has

/-- What holds of all that is met is found by walking down. -/
theorem forall_meets_iff {P : Ref → Prop} {r : Ref} :
    (∀ q, s.Meets r q → P q) ↔ P r ∧ ∀ p ∈ s.partsOf r, ∀ q, s.Meets p q → P q := by
  constructor
  · exact fun h => ⟨h r .refl, fun p hp q hq => h q (.head hp hq)⟩
  · rintro ⟨hr, hbelow⟩ q hq
    rcases Relation.ReflTransGen.cases_head hq with rfl | ⟨p, hp, hpq⟩
    · exact hr
    · exact hbelow p hp q hpq

/-- Each part of an object forms a smaller document than the object. -/
theorem Forms.exists_part {j : Json} {r p : Ref} (h : s.Forms j r) (hp : s.Has r p) :
    ∃ i, s.Forms i p ∧ sizeOf i < sizeOf j := by
  cases h with
  | value hrole =>
    rw [Has, partsOf, hrole] at hp
    cases hp
  | holder hrole hbelow =>
    rw [Has, partsOf_holder hrole] at hp
    obtain ⟨i, hi, hforms⟩ := hbelow.exists_of_mem hp
    have hitem := List.sizeOf_lt_of_mem hi
    exact ⟨i, hforms, Nat.lt_trans hitem (Holder.sizeOf_lt_make hbelow.length_eq)⟩

/-- What is met below an object that forms a document forms documents too, and no larger ones. -/
theorem Forms.of_meets {j : Json} {r q : Ref} (h : s.Forms j r) (hq : s.Meets r q) :
    ∃ k, s.Forms k q ∧ sizeOf k ≤ sizeOf j := by
  induction hq with
  | refl => exact ⟨j, h, Nat.le_refl _⟩
  | tail _ hpart ih =>
    obtain ⟨i, hi, hle⟩ := ih
    obtain ⟨k, hk, hlt⟩ := hi.exists_part hpart
    exact ⟨k, hk, Nat.le_trans (Nat.le_of_lt hlt) hle⟩

/-- Whether an object is met below itself. -/
def ContainsItself (s : Store) (q : Ref) : Prop :=
  Relation.TransGen s.Has q q

/-- An object that forms a document is not below one of its own parts, whose documents are smaller.
-/
theorem Forms.not_containsItself {j : Json} {q : Ref} (h : s.Forms j q) : ¬s.ContainsItself q := by
  intro hround
  obtain ⟨p, hpart, hq⟩ := Relation.TransGen.head'_iff.1 hround
  obtain ⟨i, hi, hlt⟩ := h.exists_part hpart
  obtain ⟨k, hk, hle⟩ := hi.of_meets hq
  rw [hk.unique h] at hle
  exact Nat.not_lt.2 hle hlt

/-- A leaf that is a node is a token. -/
theorem exists_holds_of_value {j : Json} {r : Ref} (hrole : s.documentRole r = .value j)
    (hplain : (s.role r).isPlain = false) : ∃ t, s.holds t r = true ∧ t.toJson = j := by
  unfold documentRole at hrole
  split at hrole <;> cases hrole
  · next htoken => exact ⟨_, holds_token.2 ⟨htoken, rfl⟩, rfl⟩
  · next hvalue => cases hplain.symm.trans (congrArg Role.isPlain hvalue)
  · next hnothing => cases hplain.symm.trans (congrArg Role.isPlain hnothing)

/-- A holder that is a node is a construct. -/
theorem exists_holds_of_holder {h : Holder} {ts : List Tree} {r : Ref}
    (hrole : s.documentRole r = .holder h) (hplain : (s.role r).isPlain = false)
    (hts : s.holdsAll ts h.parts = true) :
    ∃ t, s.holds t r = true ∧ t.toJson = h.make (Tree.toJsonAll ts) := by
  unfold documentRole at hrole
  split at hrole <;> cases hrole
  · next hconstruct => exact ⟨_, holds_construct.2 ⟨hconstruct, rfl, hts⟩, rfl⟩
  · next hlist => cases hplain.symm.trans (congrArg Role.isPlain hlist)
  · next htable => cases hplain.symm.trans (congrArg Role.isPlain htable)

mutual

/-- Where all that is met is a node, or of a class that no document knows, the document is that of a
tree. -/
theorem Forms.exists_holds : ∀ {j : Json} {r : Ref}, s.Forms j r →
    (∀ q, s.Meets r q → (s.role q).isPlain = false) → ∃ t, s.holds t r = true ∧ t.toJson = j
  | _, r, .value hrole, hplain => exists_holds_of_value hrole (hplain r .refl)
  | _, r, .holder hrole hbelow, hplain => by
    have hparts := (forall_meets_iff.1 hplain).2
    rw [partsOf_holder hrole] at hparts
    obtain ⟨ts, hts, rfl⟩ := FormAll.exists_holdsAll hbelow hparts
    exact exists_holds_of_holder hrole (hplain r .refl) hts

theorem FormAll.exists_holdsAll : ∀ {js : List Json} {rs : List Ref}, s.FormAll js rs →
    (∀ p ∈ rs, ∀ q, s.Meets p q → (s.role q).isPlain = false) →
      ∃ ts, s.holdsAll ts rs = true ∧ Tree.toJsonAll ts = js
  | _, _, .nil, _ => ⟨[], rfl, rfl⟩
  | _, _, .cons h hall, hplain => by
    rw [List.forall_mem_cons] at hplain
    obtain ⟨t, ht, rfl⟩ := Forms.exists_holds h hplain.1
    obtain ⟨ts, hts, rfl⟩ := FormAll.exists_holdsAll hall hplain.2
    exact ⟨t :: ts, holdsAll_cons.2 ⟨ht, hts⟩, rfl⟩

end

end Store

end JavaText
