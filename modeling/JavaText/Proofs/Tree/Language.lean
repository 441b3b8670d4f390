import JavaText.Proofs.Json.Nesting
import JavaText.Proofs.Tree.Document
import Mathlib.Data.List.Forall2

/-!
# The language of tree documents

Which documents are trees, said from the outside in. A document is a tree if it is an object and
every object that stands anywhere in it, whether or not anything looks at it, has the members of a
node (`Json.IsTree`). `Json.Describes` relates such a document to the tree that it is read as,
member by member and child by child.

The reader goes from the inside out and gives up at the first object that is no node. It accepts
just the documents that are trees and gives the tree that they describe
(`Tree.ofJson?_eq_some_iff`).
-/

namespace JavaText

/-! ## Labels -/

namespace Kind

/-- The label of a token of the given name: the kind of token of that name if there is one, and else
the name itself. -/
inductive IsTokenLabel (name : Text) : Kind → Prop
  | known {k : TokenKind} (h : k.name = name) : IsTokenLabel name (.token k)
  | unknown (h : ∀ k : TokenKind, k.name ≠ name) : IsTokenLabel name (.plain name)

/-- The label of a construct of the given name: the kind of construct of that name if there is one,
and else the name itself. -/
inductive IsConstructLabel (name : Text) : Kind → Prop
  | known {k : ConstructKind} (h : k.name = name) : IsConstructLabel name (.construct k)
  | unknown (h : ∀ k : ConstructKind, k.name ≠ name) : IsConstructLabel name (.plain name)

/-- The name of a token allows one kind. -/
theorem isTokenLabel_iff {name : Text} {k : Kind} :
    IsTokenLabel name k ↔ k = ofTokenName name := by
  constructor
  · rintro (@⟨k, rfl⟩ | h)
    · rw [ofTokenName, k.ofName?_name.1]
    · refine (ofTokenName_eq_plain.2 ⟨?_, rfl⟩).symm
      cases hfound : TokenKind.ofName? name with
      | none => rfl
      | some k => exact absurd (TokenKind.name_of_ofName? hfound) (h k)
  · rintro rfl
    unfold ofTokenName
    split
    · next h => exact .known (TokenKind.name_of_ofName? h)
    · next h =>
      refine .unknown fun k hk => ?_
      rw [← hk, k.ofName?_name.1] at h
      cases h

/-- The name of a construct allows one kind. -/
theorem isConstructLabel_iff {name : Text} {k : Kind} :
    IsConstructLabel name k ↔ k = ofConstructName name := by
  constructor
  · rintro (@⟨k, rfl⟩ | h)
    · rw [ofConstructName, k.ofName?_name.1]
    · refine (ofConstructName_eq_plain.2 ⟨?_, rfl⟩).symm
      cases hfound : ConstructKind.ofName? name with
      | none => rfl
      | some k => exact absurd (ConstructKind.name_of_ofName? hfound) (h k)
  · rintro rfl
    unfold ofConstructName
    split
    · next h => exact .known (ConstructKind.name_of_ofName? h)
    · next h =>
      refine .unknown fun k hk => ?_
      rw [← hk, k.ofName?_name.1] at h
      cases h

end Kind

namespace Json

/-! ## Documents that are trees -/

/-- An object, whatever is in it. -/
def IsObject (j : Json) : Prop :=
  ∃ members, j = .object members

/-- The members of an object that is a node; the last member of a key counts. -/
structure IsNode (members : List (Text × Json)) : Prop where
  name : ∃ name, last? "n" members = some (.string name)
  shape :
    (last? "t" members = some (.string "l") ∧ ∃ s, last? "s" members = some (.string s)) ∨
    (last? "t" members = some (.string "p") ∧
      (last? "c" members = none ∨
        ∃ items, last? "c" members = some (.array items) ∧ ∀ item ∈ items, IsObject item))

/-- Every object in a value is a node. -/
def AllNodes (j : Json) : Prop :=
  AllObjects IsNode j

/-- A document that is a tree. -/
structure IsTree (j : Json) : Prop where
  isObject : IsObject j
  allNodes : AllNodes j

mutual

/-- An object describes a tree. -/
inductive Describes : Json → Tree → Prop
  | token {members : List (Text × Json)} {name s : Text} {label : Kind}
      (hname : last? "n" members = some (.string name))
      (htype : last? "t" members = some (.string "l"))
      (htext : last? "s" members = some (.string s)) (hlabel : Kind.IsTokenLabel name label) :
      Describes (.object members) (.token ⟨some label, some s⟩)
  | bare {members : List (Text × Json)} {name : Text} {label : Kind}
      (hname : last? "n" members = some (.string name))
      (htype : last? "t" members = some (.string "p"))
      (hchildren : last? "c" members = none) (hlabel : Kind.IsConstructLabel name label) :
      Describes (.object members) (.construct (some label) [])
  | construct {members : List (Text × Json)} {name : Text} {label : Kind} {items : List Json}
      {ts : List Tree} (hname : last? "n" members = some (.string name))
      (htype : last? "t" members = some (.string "p"))
      (hchildren : last? "c" members = some (.array items)) (h : DescribesAll items ts)
      (hlabel : Kind.IsConstructLabel name label) :
      Describes (.object members) (.construct (some label) ts)

/-- Objects describe trees in pairs. -/
inductive DescribesAll : List Json → List Tree → Prop
  | nil : DescribesAll [] []
  | cons {j : Json} {t : Tree} {js : List Json} {ts : List Tree} (h : Describes j t)
      (hs : DescribesAll js ts) : DescribesAll (j :: js) (t :: ts)

end

mutual

/-- A document describes at most one tree. -/
theorem Describes.unique : ∀ {j : Json} {t u : Tree}, Describes j t → Describes j u → t = u
  | _, _, _, .token hname _ htext hlabel, .token hname' _ htext' hlabel' => by
    rw [hname'] at hname
    rw [htext'] at htext
    cases hname
    cases htext
    rw [Kind.isTokenLabel_iff.1 hlabel, Kind.isTokenLabel_iff.1 hlabel']
  | _, _, _, .bare hname _ _ hlabel, .bare hname' _ _ hlabel' => by
    rw [hname'] at hname
    cases hname
    rw [Kind.isConstructLabel_iff.1 hlabel, Kind.isConstructLabel_iff.1 hlabel']
  | _, _, _, .construct hname _ hchildren hs hlabel,
      .construct hname' _ hchildren' hs' hlabel' => by
    rw [hname'] at hname
    rw [hchildren'] at hchildren
    cases hname
    cases hchildren
    rw [Kind.isConstructLabel_iff.1 hlabel, Kind.isConstructLabel_iff.1 hlabel', hs.unique hs']
  -- the type tells a token from a construct, and the children a bare construct from the others
  | _, _, _, .token _ htype _ _, .bare _ htype' _ _
  | _, _, _, .token _ htype _ _, .construct _ htype' _ _ _
  | _, _, _, .bare _ htype _ _, .token _ htype' _ _
  | _, _, _, .construct _ htype _ _ _, .token _ htype' _ _ => by
    rw [htype'] at htype
    exact absurd (Json.string.inj (Option.some.inj htype)) (by decide)
  | _, _, _, .bare _ _ hchildren _, .construct _ _ hchildren' _ _
  | _, _, _, .construct _ _ hchildren _ _, .bare _ _ hchildren' _ => by
    rw [hchildren'] at hchildren
    cases hchildren

/-- Documents describe no more than one list of trees. -/
theorem DescribesAll.unique : ∀ {js : List Json} {ts us : List Tree}, DescribesAll js ts →
    DescribesAll js us → ts = us
  | _, _, _, .nil, .nil => rfl
  | _, _, _, .cons h hs, .cons h' hs' => by rw [h.unique h', hs.unique hs']

end

/-- All objects of an array are nodes if those of its items are. -/
theorem allNodes_array {items : List Json} :
    AllNodes (.array items) ↔ ∀ item ∈ items, AllNodes item :=
  allObjects_array

/-- All objects within an object are nodes if it is one and those of its members are. -/
theorem allNodes_object {members : List (Text × Json)} :
    AllNodes (.object members) ↔ IsNode members ∧ ∀ m ∈ members, AllNodes m.2 :=
  allObjects_object

/-! ## What a value is read as -/

/-- A reading says what a value is. -/
def Reads : Json → Reading → Prop
  | .string t, r => r = .text t
  | .object members, r => ∃ t, r = .node t ∧ Describes (.object members) t
  | .array items, r =>
    (∃ ts, r = .nodes ts ∧ DescribesAll items ts) ∨ (r = .other ∧ ∃ item ∈ items, ¬IsObject item)
  | .null, r => r = .other
  | .bool _, r => r = .other
  | .number _, r => r = .other

/-- A document that describes a tree is an object. -/
theorem Describes.isObject {j : Json} {t : Tree} (h : Describes j t) : IsObject j := by
  cases h <;> exact ⟨_, rfl⟩

theorem DescribesAll.isObject : ∀ {js : List Json} {ts : List Tree}, DescribesAll js ts →
    ∀ j ∈ js, IsObject j
  | _, _, .nil, _, hmem => by cases hmem
  | _, _, .cons h hs, j, hmem => by
    rcases List.mem_cons.1 hmem with rfl | hmem
    · exact h.isObject
    · exact hs.isObject j hmem

/-- What is read as a text is a string. -/
theorem Reads.text_iff {j : Json} {r : Reading} (h : Reads j r) (s : Text) :
    r = .text s ↔ j = .string s := by
  cases j with
  | string t => rw [show r = .text t from h]; simp
  | object members => obtain ⟨t, rfl, -⟩ := h; simp
  | array items => rcases h with ⟨ts, rfl, -⟩ | ⟨rfl, -⟩ <;> simp
  | null => rw [show r = .other from h]; simp
  | bool b => rw [show r = .other from h]; simp
  | number n => rw [show r = .other from h]; simp

/-- What is read as a tree describes the tree. -/
theorem Reads.describes {j : Json} {t : Tree} (h : Reads j (.node t)) : Describes j t := by
  cases j with
  | object members =>
    obtain ⟨t', heq, h⟩ := h
    cases heq
    exact h
  | array items => rcases h with ⟨ts, heq, -⟩ | ⟨heq, -⟩ <;> cases heq
  | string t => cases h
  | null => cases h
  | bool b => cases h
  | number n => cases h

/-- What is read as a list of trees is an array whose items describe them. -/
theorem Reads.describesAll {j : Json} {ts : List Tree} (h : Reads j (.nodes ts)) :
    ∃ items, j = .array items ∧ DescribesAll items ts := by
  cases j with
  | array items =>
    rcases h with ⟨ts', heq, h⟩ | ⟨heq, -⟩
    · cases heq
      exact ⟨items, rfl, h⟩
    · cases heq
  | object members => obtain ⟨t, heq, -⟩ := h; cases heq
  | string t => cases h
  | null => cases h
  | bool b => cases h
  | number n => cases h

/-- An array of objects is read as a list of trees, never as a list of values. -/
theorem Reads.of_items {items : List Json} {r : Reading} (h : Reads (.array items) r)
    (hobjects : ∀ item ∈ items, IsObject item) : ∃ ts, r = .nodes ts ∧ DescribesAll items ts := by
  rcases h with h | ⟨-, item, hmem, hne⟩
  · exact h
  · exact absurd (hobjects item hmem) hne

/-- Readings of items that are nodes throughout are the trees of the items; else some item is no
object. -/
theorem reads_array : ∀ {items : List Json} {rs : List Reading}, List.Forall₂ Reads items rs →
    Reads (.array items) (.ofItems rs) := by
  intro items rs hitems
  induction hitems with
  | nil => exact Or.inl ⟨[], rfl, .nil⟩
  | @cons j r js rs h hs ih =>
    rw [Reading.ofItems]
    rw [Reading.ofItems] at ih
    cases r with
    | node t =>
      rw [Reading.trees?]
      cases htrees : Reading.trees? rs with
      | some ts =>
        rw [htrees] at ih
        rcases ih with ⟨ts', heq, hts⟩ | ⟨heq, -⟩
        · cases heq
          exact Or.inl ⟨_, rfl, .cons h.describes hts⟩
        · cases heq
      | none =>
        rw [htrees] at ih
        rcases ih with ⟨ts', heq, -⟩ | ⟨-, item, hmem, hne⟩
        · cases heq
        · exact Or.inr ⟨rfl, item, List.mem_cons_of_mem j hmem, hne⟩
    | text _ | nodes _ | other =>
      refine Or.inr ⟨rfl, j, List.mem_cons_self, ?_⟩
      rintro ⟨members, rfl⟩
      obtain ⟨t, heq, -⟩ := h
      cases heq

/-! ## Objects -/

/-- A member and its reading: the same key, and a reading of the value. -/
def ReadsMember (m : Text × Json) (n : Text × Reading) : Prop :=
  m.1 = n.1 ∧ Reads m.2 n.2

/-- The value that counts for a key is read as the reading that counts for it. -/
inductive ReadsLast : Option Json → Option Reading → Prop
  | none : ReadsLast none none
  | some {j : Json} {r : Reading} (h : Reads j r) : ReadsLast (some j) (some r)

/-- Whatever the key, the value that counts for it is read as the reading that counts for it. -/
theorem readsLast_last? (key : Text) : ∀ {members : List (Text × Json)}
    {rs : List (Text × Reading)}, List.Forall₂ ReadsMember members rs →
      ReadsLast (last? key members) (last? key rs)
  | [], [], .nil => .none
  | (k, j) :: members, (l, r) :: rs, .cons ⟨hkey, h⟩ hs => by
    have ih := readsLast_last? key hs
    dsimp only at hkey
    rw [last?, last?, ← hkey]
    generalize last? key members = j' at ih
    generalize last? key rs = r' at ih
    cases ih with
    | none =>
      dsimp only
      split
      · exact .some h
      · exact .none
    | some h' => exact .some h'

namespace ReadsLast

variable {j : Option Json} {r : Option Reading}

theorem text_iff (h : ReadsLast j r) (s : Text) : r = .some (.text s) ↔ j = .some (.string s) := by
  cases h with
  | none => simp
  | some h => rw [Option.some.injEq, Option.some.injEq, h.text_iff]

theorem none_iff (h : ReadsLast j r) : r = .none ↔ j = .none := by
  cases h <;> simp

theorem describesAll {ts : List Tree} (h : ReadsLast j (.some (.nodes ts))) :
    ∃ items, j = .some (.array items) ∧ DescribesAll items ts := by
  cases h with
  | some h =>
    obtain ⟨items, rfl, hts⟩ := h.describesAll
    exact ⟨items, rfl, hts⟩

theorem of_items {items : List Json} (h : ReadsLast (.some (.array items)) r)
    (hobjects : ∀ item ∈ items, IsObject item) : ∃ ts, r = .some (.nodes ts) := by
  cases h with
  | some h =>
    obtain ⟨ts, rfl, -⟩ := h.of_items hobjects
    exact ⟨ts, rfl⟩

end ReadsLast

/-- What the readings of the members of a node say. -/
theorem node?_eq_some_iff {rs : List (Text × Reading)} {t : Tree} :
    Reading.node? rs = some t ↔ ∃ name, last? "n" rs = some (.text name) ∧
      ((last? "t" rs = some (.text "l") ∧ ∃ s, last? "s" rs = some (.text s) ∧
          t = .token ⟨some (Kind.ofTokenName name), some s⟩) ∨
        (last? "t" rs = some (.text "p") ∧
          ((last? "c" rs = none ∧ t = .construct (some (Kind.ofConstructName name)) []) ∨
            ∃ ts, last? "c" rs = some (.nodes ts) ∧
              t = .construct (some (Kind.ofConstructName name)) ts))) := by
  have hne : Text.ofString "p" ≠ Text.ofString "l" := by decide
  unfold Reading.node?
  split
  · next name type hname htype =>
    rw [hname, htype]
    by_cases hl : type = Text.ofString "l"
    · subst hl
      simp only [if_true, Option.some.injEq, Reading.text.injEq, true_and, hne.symm, false_and,
        or_false, exists_eq_left']
      cases last? "s" rs with
      | none => simp
      | some r => cases r <;> simp [eq_comm]
    · by_cases hp : type = Text.ofString "p"
      · subst hp
        simp only [if_true, Option.some.injEq, Reading.text.injEq, true_and, hne,
          false_and, false_or, exists_eq_left']
        cases last? "c" rs with
        | none => simp [eq_comm]
        | some r => cases r <;> simp [eq_comm]
      · simp [hl, hp]
  · next h =>
    refine iff_of_false (by simp) ?_
    rintro ⟨name, hname, ⟨htype, -⟩ | ⟨htype, -⟩⟩
    · exact h _ _ hname htype
    · exact h _ _ hname htype

/-- The members of an object are read as a node just if they are those of one, and then as the tree
that the object describes. -/
theorem node?_of_reads {members : List (Text × Json)} {rs : List (Text × Reading)}
    (h : List.Forall₂ ReadsMember members rs) :
    (∀ t, Reading.node? rs = some t → IsNode members ∧ Describes (.object members) t) ∧
      (IsNode members → ∃ t, Reading.node? rs = some t) := by
  have hn := readsLast_last? "n" h
  have ht := readsLast_last? "t" h
  have hs := readsLast_last? "s" h
  have hc := readsLast_last? "c" h
  constructor
  · intro t hnode
    obtain ⟨name, hname, ⟨htype, s, htext, rfl⟩ | ⟨htype, hchildren⟩⟩ := node?_eq_some_iff.1 hnode
    · rw [hn.text_iff] at hname
      rw [ht.text_iff] at htype
      rw [hs.text_iff] at htext
      exact ⟨⟨⟨name, hname⟩, Or.inl ⟨htype, s, htext⟩⟩,
        .token hname htype htext (Kind.isTokenLabel_iff.2 rfl)⟩
    · rw [hn.text_iff] at hname
      rw [ht.text_iff] at htype
      rcases hchildren with ⟨hnone, rfl⟩ | ⟨ts, hnodes, rfl⟩
      · rw [hc.none_iff] at hnone
        exact ⟨⟨⟨name, hname⟩, Or.inr ⟨htype, Or.inl hnone⟩⟩,
          .bare hname htype hnone (Kind.isConstructLabel_iff.2 rfl)⟩
      · rw [hnodes] at hc
        obtain ⟨items, hitems, hts⟩ := hc.describesAll
        exact ⟨⟨⟨name, hname⟩, Or.inr ⟨htype, Or.inr ⟨items, hitems, hts.isObject⟩⟩⟩,
          .construct hname htype hitems hts (Kind.isConstructLabel_iff.2 rfl)⟩
  · rintro ⟨⟨name, hname⟩, ⟨htype, s, htext⟩ | ⟨htype, hchildren⟩⟩
    · rw [← hn.text_iff] at hname
      rw [← ht.text_iff] at htype
      rw [← hs.text_iff] at htext
      exact ⟨_, node?_eq_some_iff.2 ⟨name, hname, Or.inl ⟨htype, s, htext, rfl⟩⟩⟩
    · rw [← hn.text_iff] at hname
      rw [← ht.text_iff] at htype
      rcases hchildren with hnone | ⟨items, hitems, hobjects⟩
      · rw [← hc.none_iff] at hnone
        exact ⟨_, node?_eq_some_iff.2 ⟨name, hname, Or.inr ⟨htype, Or.inl ⟨hnone, rfl⟩⟩⟩⟩
      · rw [hitems] at hc
        obtain ⟨ts, hts⟩ := hc.of_items hobjects
        exact ⟨_, node?_eq_some_iff.2 ⟨name, hname, Or.inr ⟨htype, Or.inr ⟨ts, hts, rfl⟩⟩⟩⟩

/-! ## The whole document -/

mutual

/-- A value is read just if every object in it is a node, and then as what it is. -/
theorem reading?_spec : ∀ j : Json,
    (∀ r, reading? j = some r → AllNodes j ∧ Reads j r) ∧ (AllNodes j → ∃ r, reading? j = some r)
  | .null | .bool _ | .number _ | .string _ => by
    refine ⟨fun r h => ⟨nofun, ?_⟩, fun _ => ⟨_, rfl⟩⟩
    exact (Option.some.inj h).symm
  | .array items => by
    obtain ⟨hsound, hcomplete⟩ := readings?_spec items
    rw [reading?, allNodes_array]
    constructor
    · intro r h
      obtain ⟨rs, hrs, rfl⟩ := Option.map_eq_some_iff.1 h
      obtain ⟨hnodes, hreads⟩ := hsound rs hrs
      exact ⟨hnodes, reads_array hreads⟩
    · intro hnodes
      obtain ⟨rs, hrs⟩ := hcomplete hnodes
      exact ⟨_, by rw [hrs]; rfl⟩
  | .object members => by
    obtain ⟨hsound, hcomplete⟩ := memberReadings?_spec members
    rw [reading?, allNodes_object]
    constructor
    · intro r h
      split at h
      · next rs hrs =>
        obtain ⟨hnodes, hreads⟩ := hsound rs hrs
        obtain ⟨t, ht, rfl⟩ := Option.map_eq_some_iff.1 h
        obtain ⟨hnode, hdescribes⟩ := (node?_of_reads hreads).1 t ht
        exact ⟨⟨hnode, hnodes⟩, t, rfl, hdescribes⟩
      · cases h
    · rintro ⟨hnode, hnodes⟩
      obtain ⟨rs, hrs⟩ := hcomplete hnodes
      obtain ⟨t, ht⟩ := (node?_of_reads (hsound rs hrs).2).2 hnode
      exact ⟨.node t, by simp only [hrs, ht, Option.map_some]⟩

/-- Values are read if all objects within them are nodes. -/
theorem readings?_spec : ∀ js : List Json,
    (∀ rs, readings? js = some rs → (∀ j ∈ js, AllNodes j) ∧ List.Forall₂ Reads js rs) ∧
      ((∀ j ∈ js, AllNodes j) → ∃ rs, readings? js = some rs)
  | [] => ⟨fun rs h => by cases h; simp, fun _ => ⟨[], rfl⟩⟩
  | j :: js => by
    obtain ⟨hsound, hcomplete⟩ := reading?_spec j
    obtain ⟨hsounds, hcompletes⟩ := readings?_spec js
    rw [readings?, List.forall_mem_cons]
    constructor
    · intro rs h
      split at h
      · next r rs' hr hrs =>
        cases h
        obtain ⟨hj, hreads⟩ := hsound r hr
        obtain ⟨hjs, hreadss⟩ := hsounds rs' hrs
        exact ⟨⟨hj, hjs⟩, .cons hreads hreadss⟩
      · cases h
    · rintro ⟨hj, hjs⟩
      obtain ⟨r, hr⟩ := hcomplete hj
      obtain ⟨rs, hrs⟩ := hcompletes hjs
      exact ⟨r :: rs, by simp only [hr, hrs]⟩

/-- Members are read if all objects within their values are nodes. -/
theorem memberReadings?_spec : ∀ members : List (Text × Json),
    (∀ rs, memberReadings? members = some rs →
      (∀ m ∈ members, AllNodes m.2) ∧ List.Forall₂ ReadsMember members rs) ∧
      ((∀ m ∈ members, AllNodes m.2) → ∃ rs, memberReadings? members = some rs)
  | [] => ⟨fun rs h => by cases h; simp, fun _ => ⟨[], rfl⟩⟩
  | (key, j) :: members => by
    obtain ⟨hsound, hcomplete⟩ := reading?_spec j
    obtain ⟨hsounds, hcompletes⟩ := memberReadings?_spec members
    rw [memberReadings?, List.forall_mem_cons]
    constructor
    · intro rs h
      split at h
      · next r rs' hr hrs =>
        cases h
        obtain ⟨hj, hreads⟩ := hsound r hr
        obtain ⟨hjs, hreadss⟩ := hsounds rs' hrs
        exact ⟨⟨hj, hjs⟩, .cons ⟨rfl, hreads⟩ hreadss⟩
      · cases h
    · rintro ⟨hj, hjs⟩
      obtain ⟨r, hr⟩ := hcomplete hj
      obtain ⟨rs, hrs⟩ := hcompletes hjs
      exact ⟨(key, r) :: rs, by simp only [hr, hrs]⟩

end

end Json

namespace Tree

variable {j : Json} {t : Tree}

/-- A document that is a tree is read as one. -/
theorem exists_ofJson? (h : j.IsTree) : ∃ t, ofJson? j = some t := by
  obtain ⟨members, rfl⟩ := h.isObject
  obtain ⟨hsound, hcomplete⟩ := Json.reading?_spec (.object members)
  obtain ⟨r, hread⟩ := hcomplete h.allNodes
  obtain ⟨-, t, rfl, -⟩ := hsound r hread
  exact ⟨t, by rw [ofJson?, hread]⟩

/-- A document is read as a tree just if it is one, and then as the tree that it describes. -/
theorem ofJson?_eq_some_iff : ofJson? j = some t ↔ j.IsTree ∧ j.Describes t := by
  have sound {u : Tree} (h : ofJson? j = some u) : j.IsTree ∧ j.Describes u := by
    rw [ofJson?] at h
    split at h
    · next u' hread =>
      cases h
      obtain ⟨hnodes, hreads⟩ := j.reading?_spec.1 _ hread
      exact ⟨⟨hreads.describes.isObject, hnodes⟩, hreads.describes⟩
    · cases h
  refine ⟨sound, ?_⟩
  rintro ⟨htree, hdescribes⟩
  obtain ⟨u, hu⟩ := exists_ofJson? htree
  rw [hu, (sound hu).2.unique hdescribes]

end Tree

end JavaText
