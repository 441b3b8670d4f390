import JavaText.Proofs.Store.Agreement
import JavaText.Proofs.Store.Forest
import JavaText.Proofs.Store.Unfold
import JavaText.Proofs.Tree.Bytes

/-!
# Reading a document as linked nodes

A document is read from the inside out, and each object of it becomes a linked node at once: also
those under keys that are not used, and before it is known whether the document is a tree. A node
gets as its children the nodes of the list that counts. `Json.link?` is this way of reading; it
reads what `Json.reading?` reads, and along with it names the nodes that stand for the trees.

Each value is read into nodes of its own, so the nodes that a list names are new, differ from one
another and have no parent yet (`Store.Roots`). A node created above them keeps the store a forest.
So bytes that are read as a tree are read as linked nodes that form it, and every node of it but the
root is listed once, by its parent alone (`Codec.decode_tree_language`).
-/

namespace JavaText

/-! ## Linked nodes of values -/

namespace Reading

/-- The trees that a reading stands for. -/
def trees : Reading → List Tree
  | node t => [t]
  | nodes ts => ts
  | text _ => []
  | other => []

theorem trees_ofItems : ∀ {rs : List Reading} {ts : List Tree}, trees? rs = some ts →
    rs.flatMap trees = ts
  | [], ts, h => Option.some.inj h
  | node t :: rs, ts, h => by
    rw [trees?] at h
    obtain ⟨us, hus, rfl⟩ := Option.map_eq_some_iff.1 h
    rw [List.flatMap_cons, trees_ofItems hus]
    rfl

end Reading

/-- What a value is read as, with the nodes that stand for its trees. -/
structure Linked where
  reading : Reading
  refs : List Ref

namespace Linked

/-- The linked nodes of an array. -/
def ofItems (ls : List Linked) : Linked :=
  match Reading.trees? (ls.map reading) with
  | some ts => { reading := .nodes ts, refs := ls.flatMap refs }
  | none => { reading := .other, refs := [] }

/-- The members of an object as they are read. -/
def readings (members : List (Text × Linked)) : List (Text × Reading) :=
  members.map fun m => (m.1, m.2.reading)

/-- The nodes that are the children of the node that an object describes. -/
def childRefs (members : List (Text × Linked)) : List Ref :=
  ((Json.last? "c" members).map refs).getD []

/-- Create the node that an object describes. -/
def create (s : Store) (members : List (Text × Linked)) : Tree → Except SurgeryError Store
  | .token t => s.create .token t.kind t.text none []
  | .construct kind _ => s.create .construct kind none none ((childRefs members).map some)

/-- The linked node of an object. -/
def node? (s : Store) (members : List (Text × Linked)) : Option (Store × Linked) :=
  match Reading.node? (readings members) with
  | none => none
  | some t =>
    match create s members t with
    | .ok s' => some (s', { reading := .node t, refs := [s.size] })
    | .error _ => none

end Linked

namespace Json

mutual

/-- Read a value into a store; none if some object in it is not a node. -/
def link? : Json → Store → Option (Store × Linked)
  | string t, s => some (s, { reading := .text t, refs := [] })
  | array items, s => (linkItems? items s).map fun x => (x.1, .ofItems x.2)
  | object members, s => (linkMembers? members s).bind fun x => Linked.node? x.1 x.2
  | null, s => some (s, { reading := .other, refs := [] })
  | bool _, s => some (s, { reading := .other, refs := [] })
  | number _, s => some (s, { reading := .other, refs := [] })

/-- Read several values into a store, one after another. -/
def linkItems? : List Json → Store → Option (Store × List Linked)
  | [], s => some (s, [])
  | j :: js, s =>
    (link? j s).bind fun x => (linkItems? js x.1).map fun y => (y.1, x.2 :: y.2)

/-- Read the members of an object into a store, one after another. -/
def linkMembers? : List (Text × Json) → Store → Option (Store × List (Text × Linked))
  | [], s => some (s, [])
  | (key, j) :: members, s =>
    (link? j s).bind fun x => (linkMembers? members x.1).map fun y => (y.1, (key, x.2) :: y.2)

end

/-- The linked nodes of a document, and the root among them. -/
def linkTree? (j : Json) : Option (Store × Ref) :=
  match j.link? .empty with
  | some (s, ⟨.node _, [r]⟩) => some (s, r)
  | _ => none

/-- The value that counts for a key does not depend on what is done with the values. -/
theorem last?_map {α β : Type} (f : α → β) (key : Text) : ∀ members : List (Text × α),
    last? key (members.map fun m => (m.1, f m.2)) = (last? key members).map f
  | [] => rfl
  | (k, a) :: members => by
    rw [List.map_cons, last?, last?, last?_map f key members]
    cases last? key members with
    | some b => rfl
    | none => dsimp only [Option.map_none]; split <;> rfl

/-- The value that counts for a key is one of the members. -/
theorem mem_of_last? {α : Type} {key : Text} {a : α} : ∀ {members : List (Text × α)},
    last? key members = some a → ∃ k, (k, a) ∈ members
  | (k, b) :: members, h => by
    rw [last?] at h
    split at h
    · next hlast =>
      cases h
      obtain ⟨k, hmem⟩ := mem_of_last? hlast
      exact ⟨k, List.mem_cons_of_mem _ hmem⟩
    · split at h
      · cases h
        exact ⟨k, List.mem_cons_self⟩
      · cases h

end Json

namespace Store

variable {s s' s'' : Store} {lo hi : Nat}

/-! ## Growing stores -/

/-- A store has all nodes of another one. They are labelled and list children as before; those
before a given one also have the same parents. -/
structure Extends (lo : Nat) (s s' : Store) : Prop where
  size_le : s.size ≤ s'.size
  label : ∀ q < s.size, s'.label q = s.label q
  children : ∀ q < s.size, s'.childrenOf q = s.childrenOf q
  parent : ∀ q < lo, s'.parent? q = s.parent? q

namespace Extends

theorem refl (lo : Nat) (s : Store) : Extends lo s s :=
  ⟨Nat.le_refl _, fun _ _ => rfl, fun _ _ => rfl, fun _ _ => rfl⟩

/-- A store that grows twice has grown. -/
theorem trans (h : Extends lo s s') (h' : Extends hi s' s'') (hle : lo ≤ hi) :
    Extends lo s s'' where
  size_le := Nat.le_trans h.size_le h'.size_le
  label q hq := (h'.label q (Nat.lt_of_lt_of_le hq h.size_le)).trans (h.label q hq)
  children q hq := (h'.children q (Nat.lt_of_lt_of_le hq h.size_le)).trans (h.children q hq)
  parent q hq := (h'.parent q (Nat.lt_of_lt_of_le hq hle)).trans (h.parent q hq)

end Extends

/-- One tree is formed by one node. -/
theorem eq_singleton_of_agreesAll {t : Tree} {rs : List Ref} (h : s.agreesAll [t] rs) :
    ∃ r, rs = [r] ∧ s.agrees t r = true := by
  cases rs with
  | nil => cases h
  | cons r rs =>
    obtain ⟨ht, hnil⟩ := agreesAll_cons.1 h
    cases rs with
    | nil => exact ⟨r, rfl, ht⟩
    | cons q qs => cases hnil

/-- Nodes that agree with trees are in the store. -/
theorem lt_size_of_agrees {t : Tree} {r : Ref} (h : s.agrees t r) : r < s.size := by
  rcases Nat.lt_or_ge r s.size with hlt | hge
  · exact hlt
  · have hnone : (s.label r).1 = .nothing := by
      rw [label, role, node?, Array.getElem?_eq_none hge]
    cases t with
    | token t => rw [(agrees_token.1 h).1] at hnone; cases hnone
    | construct k ts => rw [(agrees_construct.1 h).1] at hnone; cases hnone

mutual

/-- What is below a node stays as it is when the store grows. -/
theorem agrees_of_extends (hext : Extends lo s s') : ∀ {t : Tree} {r : Ref}, s.agrees t r →
    s'.agrees t r
  | .token t, r, h => by
    have hlt := lt_size_of_agrees h
    rw [agrees_token] at h ⊢
    rwa [hext.label r hlt, hext.children r hlt]
  | .construct k ts, r, h => by
    have hlt := lt_size_of_agrees h
    obtain ⟨hrole, hkind, hts⟩ := agrees_construct.1 h
    rw [agrees_construct, hext.label r hlt, hext.children r hlt]
    exact ⟨hrole, hkind, agreesAll_of_extends hext hts⟩

/-- They agree with them still when the store grows. -/
theorem agreesAll_of_extends (hext : Extends lo s s') : ∀ {ts : List Tree} {rs : List Ref},
    s.agreesAll ts rs → s'.agreesAll ts rs
  | [], [], _ => rfl
  | t :: ts, r :: rs, h => by
    obtain ⟨ht, hts⟩ := agreesAll_cons.1 h
    exact agreesAll_cons.2 ⟨agrees_of_extends hext ht, agreesAll_of_extends hext hts⟩

end

theorem lt_size_of_agreesAll : ∀ {ts : List Tree} {rs : List Ref}, s.agreesAll ts rs →
    ∀ r ∈ rs, r < s.size
  | t :: ts, r :: rs, h => by
    obtain ⟨ht, hts⟩ := agreesAll_cons.1 h
    exact List.forall_mem_cons.2 ⟨lt_size_of_agrees ht, lt_size_of_agreesAll hts⟩
  | [], [], _ => nofun

/-- Lists that agree with trees do so one after another. -/
theorem agreesAll_append : ∀ {ts us : List Tree} {rs qs : List Ref}, s.agreesAll ts rs →
    s.agreesAll us qs → s.agreesAll (ts ++ us) (rs ++ qs)
  | [], us, [], qs, _, h => h
  | t :: ts, us, r :: rs, qs, hts, hus => by
    obtain ⟨ht, hts⟩ := agreesAll_cons.1 hts
    exact agreesAll_cons.2 ⟨ht, agreesAll_append hts hus⟩

/-! ## New roots -/

/-- Nodes from a given one on that form trees and may still be attached anywhere. -/
structure Roots (s : Store) (lo : Nat) (ts : List Tree) (rs : List Ref) : Prop where
  agrees : s.agreesAll ts rs = true
  nodup : rs.Nodup
  new : ∀ r ∈ rs, lo ≤ r
  free : ∀ r ∈ rs, s.parent? r = none

namespace Roots

variable {ts us : List Tree} {rs qs : List Ref}

theorem nil (s : Store) (lo : Nat) : Roots s lo [] [] :=
  ⟨rfl, List.nodup_nil, nofun, nofun⟩

theorem of_le (h : Roots s hi ts rs) (hle : lo ≤ hi) : Roots s lo ts rs :=
  ⟨h.agrees, h.nodup, fun r hr => Nat.le_trans hle (h.new r hr), h.free⟩

theorem lt_size (h : Roots s lo ts rs) : ∀ r ∈ rs, r < s.size :=
  lt_size_of_agreesAll h.agrees

/-- New roots are roots of a store that grows. -/
theorem of_extends (h : Roots s lo ts rs) (hext : Extends s.size s s') : Roots s' lo ts rs :=
  ⟨agreesAll_of_extends hext h.agrees, h.nodup, h.new,
    fun r hr => (hext.parent r (h.lt_size r hr)).trans (h.free r hr)⟩

/-- What is read later is read into later nodes. -/
theorem append (h : Roots s lo ts rs) (hext : Extends s.size s s') (hlo : lo ≤ s.size)
    (h' : Roots s' s.size us qs) : Roots s' lo (ts ++ us) (rs ++ qs) := by
  have hfirst := h.of_extends hext
  refine ⟨agreesAll_append hfirst.agrees h'.agrees, ?_, ?_, ?_⟩
  · refine List.nodup_append.2 ⟨h.nodup, h'.nodup, fun r hr q hq heq => ?_⟩
    have hlt := h.lt_size r hr
    have hle := h'.new q hq
    rw [heq] at hlt
    exact absurd hle (Nat.not_le.2 hlt)
  · intro r hr
    rcases List.mem_append.1 hr with hr | hr
    · exact h.new r hr
    · exact Nat.le_trans hlo (h'.new r hr)
  · intro r hr
    rcases List.mem_append.1 hr with hr | hr
    · exact hfirst.free r hr
    · exact h'.free r hr

/-- A node that is created above new roots is a new root. -/
theorem create (h : Roots s lo ts rs) (hforest : s.IsForest) (role : Role) (kind : Option Kind)
    (text : Option Text) :
    ∃ s', s.create role kind text none (rs.map some) = .ok s' ∧ s'.IsForest ∧ Extends lo s s' ∧
      s'.label s.size = (role, kind, if role = .token then text else none) ∧
      s'.childrenOf s.size = rs ∧ s'.parent? s.size = none := by
  obtain ⟨s', hs', hforest'⟩ := hforest.create role kind text h.nodup
    fun r hr => ⟨h.lt_size r hr, h.free r hr⟩
  have hlt : ∀ r ∈ rs, r < (s.push (fresh role kind text)).size := by
    intro r hr
    rw [size_push]
    exact Nat.lt_succ_of_lt (h.lt_size r hr)
  have hlist := hasList_push_fresh s role kind text
  obtain rfl := (Except.ok.inj hs').symm
  have hnone := node?_size s
  refine ⟨_, hs', hforest', ⟨?_, fun q hq => ?_, fun q hq => ?_, fun q hq => ?_⟩, ?_, ?_, ?_⟩
  · rw [size_addChildren, size_push]
    exact Nat.le_succ _
  · rw [label_addChildren]
    simp only [label, Store.role, kind?, text?, node?_push, if_neg (Nat.ne_of_lt hq)]
  · rw [childrenOf_addChildren _ _ _ hlist, if_neg (Nat.ne_of_lt hq), childrenOf_push_fresh]
  · rw [parent?_addChildren _ _ _ _ hlt, if_neg, parent?_push_fresh]
    exact fun hmem => absurd (h.new q hmem) (Nat.not_le.2 hq)
  · rw [label_addChildren]
    simp only [label, Store.role, kind?, text?, node?_push, if_true, Option.bind_some, fresh]
    cases kind <;> cases text <;> split <;> rfl
  · rw [childrenOf_addChildren _ _ _ hlist, if_pos rfl, childrenOf_push_fresh, childrenOf, hnone]
    rfl
  · rw [parent?_addChildren _ _ _ _ hlt, if_neg, parent?_push_fresh, parent?, hnone]
    · rfl
    · exact fun hmem => Nat.lt_irrefl _ (h.lt_size _ hmem)

end Roots

/-! ## Reading into a store -/

/-- Reading into a store gives what reading gives, in a forest that extends the store and in which
something holds of the nodes that were read. -/
inductive Follows {α β : Type} (s : Store) (erase : β → α) (holds : Store → β → Prop) :
    Option α → Option (Store × β) → Prop
  | none : Follows s erase holds none none
  | some {s' : Store} {b : β} (hforest : s'.IsForest) (hext : Extends s.size s s')
      (h : holds s' b) : Follows s erase holds (some (erase b)) (some (s', b))

end Store

namespace Linked

open Store

/-- A linked value names new roots that form the trees of its reading. -/
def IsRooted (lo : Nat) (s : Store) (l : Linked) : Prop :=
  Roots s lo l.reading.trees l.refs

theorem reading_ofItems (ls : List Linked) :
    (ofItems ls).reading = Reading.ofItems (ls.map reading) := by
  unfold ofItems Reading.ofItems
  cases Reading.trees? (ls.map reading) <;> rfl

/-- New roots make up a list. -/
theorem isRooted_ofItems {s : Store} {lo : Nat} {ls : List Linked}
    (h : Roots s lo (ls.flatMap (·.reading.trees)) (ls.flatMap refs)) :
    IsRooted lo s (ofItems ls) := by
  unfold ofItems
  split
  · next ts hts =>
    rw [IsRooted, Reading.trees, ← Reading.trees_ofItems hts, List.flatMap_map]
    exact h
  · exact .nil s lo

/-- The children of a node that an object describes are new roots. -/
theorem roots_childRefs {s : Store} {lo : Nat} {members : List (Text × Linked)} {kind : Option Kind}
    {ts : List Tree} (h : ∀ m ∈ members, IsRooted lo s m.2)
    (hnode : Reading.node? (readings members) = some (.construct kind ts)) :
    Roots s lo ts (childRefs members) := by
  obtain ⟨name, -, ⟨-, x, -, heq⟩ | ⟨-, ⟨hnone, heq⟩ | ⟨us, hus, heq⟩⟩⟩ :=
    Json.node?_eq_some_iff.1 hnode
  · cases heq
  · cases heq
    rw [readings, Json.last?_map, Option.map_eq_none_iff] at hnone
    rw [childRefs, hnone]
    exact .nil s lo
  · cases heq
    rw [readings, Json.last?_map] at hus
    obtain ⟨l, hl, hreading⟩ := Option.map_eq_some_iff.1 hus
    obtain ⟨k, hmem⟩ := Json.mem_of_last? hl
    have hroots : Roots s lo l.reading.trees l.refs := h _ hmem
    rw [hreading] at hroots
    rw [childRefs, hl]
    exact hroots

/-- Reading the members of an object and creating its node. -/
theorem follows_node? {s s' : Store} {members : List (Text × Linked)} (hforest : s'.IsForest)
    (hext : Extends s.size s s') (h : ∀ m ∈ members, IsRooted s.size s' m.2) :
    Follows s reading (IsRooted s.size) ((Reading.node? (readings members)).map .node)
      (node? s' members) := by
  unfold node?
  cases hnode : Reading.node? (readings members) with
  | none => exact .none
  | some t =>
    cases t with
    | token t =>
      obtain ⟨s'', hs'', hforest', hext', hlabel, hchildren, hfree⟩ :=
        (Roots.nil s' s.size).create hforest .token t.kind t.text
      have hroot : IsRooted s.size s'' ⟨.node (.token t), [s'.size]⟩ := by
        refine ⟨agreesAll_cons.2 ⟨agrees_token.2 ⟨hlabel, hchildren⟩, rfl⟩,
          List.pairwise_singleton _ _, ?_, ?_⟩
        · simpa using hext.size_le
        · simpa using hfree
      simp only [create, show ([] : List (Option Ref)) = [].map some from rfl, hs'']
      exact .some hforest' (hext.trans hext' (Nat.le_refl _)) hroot
    | construct kind ts =>
      obtain ⟨s'', hs'', hforest', hext', hlabel, hchildren, hfree⟩ :=
        (roots_childRefs h hnode).create hforest .construct kind none
      have hroot : IsRooted s.size s'' ⟨.node (.construct kind ts), [s'.size]⟩ := by
        refine ⟨agreesAll_cons.2 ⟨agrees_construct.2 ⟨?_, ?_, ?_⟩, rfl⟩,
          List.pairwise_singleton _ _, ?_, ?_⟩
        · rw [hlabel]
        · rw [hlabel]
        · rw [hchildren]
          exact agreesAll_of_extends hext' (roots_childRefs h hnode).agrees
        · simpa using hext.size_le
        · simpa using hfree
      simp only [create, hs'']
      exact .some hforest' (hext.trans hext' (Nat.le_refl _)) hroot

end Linked

namespace Json

open Store Linked

mutual

/-- A value is read into a store as it is read. -/
theorem follows_link? : ∀ (j : Json) {s : Store}, s.IsForest →
    Follows s reading (IsRooted s.size) (reading? j) (link? j s)
  | .null, s, h | .bool _, s, h | .number _, s, h =>
    @Follows.some _ _ _ reading _ s ⟨.other, []⟩ h (.refl _ _) (.nil _ _)
  | .string t, s, h => @Follows.some _ _ _ reading _ s ⟨.text t, []⟩ h (.refl _ _) (.nil _ _)
  | .array items, s, h => by
    have ih := follows_linkItems? items h
    rw [reading?, link?]
    generalize readings? items = read at ih
    generalize linkItems? items s = linked at ih
    cases ih with
    | none => exact .none
    | some hforest hext h =>
      rw [Option.map_some, Option.map_some, ← reading_ofItems]
      exact .some hforest hext (isRooted_ofItems h)
  | .object members, s, h => by
    have ih := follows_linkMembers? members h
    rw [reading?, link?]
    generalize memberReadings? members = read at ih
    generalize linkMembers? members s = linked at ih
    cases ih with
    | none => exact .none
    | some hforest hext h => exact follows_node? hforest hext h

/-- Items are read into a store as they are read as values. -/
theorem follows_linkItems? : ∀ (js : List Json) {s : Store}, s.IsForest →
    Follows s (List.map reading)
      (fun s' ls => Roots s' s.size (ls.flatMap (·.reading.trees)) (ls.flatMap refs))
      (readings? js) (linkItems? js s)
  | [], s, h => @Follows.some _ _ _ (List.map reading) _ s [] h (.refl _ _) (.nil _ _)
  | j :: js, s, h => by
    have ih := follows_link? j h
    rw [readings?, linkItems?]
    generalize reading? j = read at ih
    generalize link? j s = linked at ih
    cases ih with
    | none => exact .none
    | @some s' l hforest hext hl =>
      have ihs := follows_linkItems? js hforest
      rw [Option.bind_some]
      generalize readings? js = reads at ihs
      generalize linkItems? js s' = linkeds at ihs
      cases ihs with
      | none => exact .none
      | @some s'' ls hforest' hext' hls =>
        refine @Follows.some _ _ _ (List.map reading) _ s'' (l :: ls) hforest'
          (hext.trans hext' hext.size_le) ?_
        exact hl.append hext' hext.size_le hls

/-- So are members. -/
theorem follows_linkMembers? : ∀ (members : List (Text × Json)) {s : Store}, s.IsForest →
    Follows s readings (fun s' ms => ∀ m ∈ ms, IsRooted s.size s' m.2)
      (memberReadings? members) (linkMembers? members s)
  | [], s, h => @Follows.some _ _ _ readings _ s [] h (.refl _ _) nofun
  | (key, j) :: members, s, h => by
    have ih := follows_link? j h
    rw [memberReadings?, linkMembers?]
    generalize reading? j = read at ih
    generalize link? j s = linked at ih
    cases ih with
    | none => exact .none
    | @some s' l hforest hext hl =>
      have ihs := follows_linkMembers? members hforest
      rw [Option.bind_some]
      generalize memberReadings? members = reads at ihs
      generalize linkMembers? members s' = linkeds at ihs
      cases ihs with
      | none => exact .none
      | @some s'' ms hforest' hext' hms =>
        refine @Follows.some _ _ _ readings _ s'' ((key, l) :: ms) hforest'
          (hext.trans hext' hext.size_le) (List.forall_mem_cons.2 ⟨?_, fun m hm => ?_⟩)
        · exact hl.of_extends hext'
        · exact (hms m hm).of_le hext.size_le

end

/-- A document that is a tree is read into linked nodes that form it; another one is not. -/
theorem linkTree?_of_ofJson? (j : Json) : match Tree.ofJson? j with
    | some t => ∃ s r, j.linkTree? = some (s, r) ∧ s.IsForest ∧ s.agrees t r = true ∧
        s.parent? r = none
    | none => j.linkTree? = none := by
  have h := follows_link? j isForest_empty
  rw [Tree.ofJson?, linkTree?]
  generalize reading? j = read at h
  generalize link? j .empty = linked at h
  cases h with
  | none => rfl
  | @some s l hforest hext hl =>
    obtain ⟨r, refs⟩ := l
    cases r with
    | node t =>
      obtain ⟨r, rfl, ht⟩ := eq_singleton_of_agreesAll hl.agrees
      exact ⟨s, r, rfl, hforest, ht, hl.free r List.mem_cons_self⟩
    | text _ | nodes _ | other => rfl

end Json

/-! ## One list for each node -/

namespace Store

variable {s : Store} {r : Ref}

/-- A node is the root of a tree in which the links agree: the root has no parent and nobody lists
it, and every other node is listed once, by its parent alone. -/
structure IsTreeRoot (s : Store) (r : Ref) : Prop where
  parent : s.parent? r = none
  unlisted : ∀ p, r ∉ s.childrenOf p
  children : ∀ p, s.Reaches r p → ∀ q ∈ s.childrenOf p, s.parent? q = some p
  once : ∀ q, s.Reaches r q → q ≠ r → ∃ p, s.Reaches r p ∧ (s.childrenOf p).count q = 1 ∧
    ∀ p', q ∈ s.childrenOf p' → p' = p

/-- What is reached, except for the first node, is listed by a node that is reached. -/
theorem Reaches.exists_lister {q : Ref} (h : s.Reaches r q) (hne : q ≠ r) :
    ∃ p, s.Reaches r p ∧ q ∈ s.childrenOf p := by
  induction h with
  | refl => exact absurd rfl hne
  | @step r p q hrole hmem _ ih =>
    by_cases hp : q = p
    · exact ⟨r, .refl r, hp ▸ hmem⟩
    · obtain ⟨p', hreach, hmem'⟩ := ih hp
      exact ⟨p', .step hrole hmem hreach, hmem'⟩

/-- In a forest a node without a parent is the root of a tree. -/
theorem IsForest.isTreeRoot (h : s.IsForest) (hroot : s.parent? r = none) : s.IsTreeRoot r := by
  refine ⟨hroot, fun p hmem => ?_, fun p _ q hq => h.mem_iff.1 hq, fun q hq hne => ?_⟩
  · cases hroot.symm.trans (h.mem_iff.1 hmem)
  · obtain ⟨p, hreach, hmem⟩ := hq.exists_lister hne
    have hparent := h.mem_iff.1 hmem
    refine ⟨p, hreach, ?_, fun p' hmem' => ?_⟩
    · rw [h.count, if_pos hparent]
    · exact Option.some.inj ((h.mem_iff.1 hmem').symm.trans hparent)

end Store

/-! ## Bytes -/

namespace Codec

variable {c : Codec} {bs : Bytes}

/-- Read a tree as linked nodes. -/
def decodeLinked (c : Codec) (limit : Option Nat) (bs : Bytes) :
    Except ReadError (Option (Store × Ref)) :=
  c.decodeBy Json.linkTree? limit bs

/-- Bytes that spell a document that is a tree and keeps to the limit are read as the tree that it
describes, and as linked nodes that form this tree and have one place each in it. If the limit is
met before the text is found to be no such document, that is an error; a document that is a tree and
does not keep to the limit meets it. All other bytes are read as no tree. Without a limit, or where
the text opens no more brackets than it allows, no limit is met. -/
theorem decode_tree_language (hc : c.isKnown) (limit : Option Nat) (bs : Bytes) :
    (∀ text j, c.Spells bs text → Json.Element text j → j.IsTree → j.FitsIn limit →
      ∃ t s r, j.Describes t ∧ c.decode limit bs = .ok (some t) ∧
        c.decodeLinked limit bs = .ok (some (s, r)) ∧ s.agrees t r = true ∧ s.IsTreeRoot r) ∧
    (∀ text, c.Spells bs text → (terms limit).GoesTooDeep text →
      c.decode limit bs = .error .tooDeep ∧ c.decodeLinked limit bs = .error .tooDeep) ∧
    (∀ text j, c.Spells bs text → Json.Element text j → j.IsTree → ¬j.FitsIn limit →
      (terms limit).GoesTooDeep text) ∧
    ((¬∃ text j, c.Spells bs text ∧ Json.Element text j ∧ j.IsTree ∧ j.FitsIn limit) →
      (¬∃ text, c.Spells bs text ∧ (terms limit).GoesTooDeep text) →
        c.decode limit bs = .ok none ∧ c.decodeLinked limit bs = .ok none) ∧
    (∀ text, (terms limit).GoesTooDeep text →
      ∃ l ∈ limit, l < text.countP Json.Terms.opens) := by
  refine ⟨?_, ?_, ?_, ?_, ?_⟩
  · intro text j hspells helement htree hfits
    obtain ⟨t, ht⟩ := Tree.exists_ofJson? htree
    have hlink := j.linkTree?_of_ofJson?
    rw [ht] at hlink
    obtain ⟨s, r, hlink, hforest, hagrees, hroot⟩ := hlink
    refine ⟨t, s, r, (Tree.ofJson?_eq_some_iff.1 ht).2, ?_, ?_, hagrees, hforest.isTreeRoot hroot⟩
    · rw [decode, hspells.decodeBy hc, (readTextBy_of_fitsIn _ helement hfits).1 htree.allNodes, ht]
    · rw [decodeLinked, hspells.decodeBy hc,
        (readTextBy_of_fitsIn _ helement hfits).1 htree.allNodes, hlink]
  · intro text hspells hdeep
    rw [decode, decodeLinked, hspells.decodeBy hc, hspells.decodeBy hc]
    exact ⟨readTextBy_of_goesTooDeep hdeep, readTextBy_of_goesTooDeep hdeep⟩
  · intro text j _ helement htree hfits
    exact goesTooDeep_of_not_fitsIn helement htree.allNodes hfits
  · intro hnot hdeep
    by_cases hspells : ∃ text, c.Spells bs text
    · obtain ⟨text, hspells⟩ := hspells
      have hdeep' : ¬(terms limit).GoesTooDeep text := fun h => hdeep ⟨text, hspells, h⟩
      have hnone : ∀ j, Json.Element text j → j.AllNodes → j.FitsIn limit →
          Tree.ofJson? j = none ∧ j.linkTree? = none := by
        intro j helement hnodes hfits
        have hlink := j.linkTree?_of_ofJson?
        cases ht : Tree.ofJson? j with
        | none =>
          rw [ht] at hlink
          exact ⟨rfl, hlink⟩
        | some t =>
          exact absurd ⟨text, j, hspells, helement, (Tree.ofJson?_eq_some_iff.1 ht).1, hfits⟩ hnot
      rw [decode, decodeLinked, hspells.decodeBy hc, hspells.decodeBy hc]
      exact ⟨readTextBy_eq_none (fun j he hn hf => (hnone j he hn hf).1) hdeep',
        readTextBy_eq_none (fun j he hn hf => (hnone j he hn hf).2) hdeep'⟩
    · have hnone : ∀ text, ¬c.Spells bs text := fun text h => hspells ⟨text, h⟩
      exact ⟨decodeBy_of_not_spells hnone hc _ limit, decodeBy_of_not_spells hnone hc _ limit⟩
  · exact fun text hdeep => hdeep.exists_lt_countP

/-- A document with a key that is not used and keys that occur twice, around the text of a token. -/
def repeating (s : Text) : Text :=
  Text.ofString "\x7b\"n\":\"METHOD\",\"t\":\"l\",\"x\":[\x7b\"n\":\"Q\",\"t\":\"p\"\x7d,1],"
    ++ Text.ofString "\"t\":\"p\",\"c\":0,\"c\":[\x7b\"t\":\"l\",\"n\":\"METHOD\","
    ++ Text.ofString "\"s\":null,\"s\":\"" ++ s
    ++ Text.ofString "\"\x7d]\x7d"

/-- The document in UTF-16, with half of a surrogate pair as the text of the token. -/
def repeatingBytes : Bytes :=
  0xff :: 0xfe :: (repeating [.ofNat 0xd800]).flatMap fun c =>
    [UInt8.ofNat c.val, UInt8.ofNat (c.val / 256)]

/-- The last of the members of a key counts, the name of a construct is no name of a token, and the
half of a pair is replaced. Three arrays and objects are open at a time. -/
theorem decode_tree_language_repeating :
    isKnown ⟨"utf-16", "replace"⟩ = true ∧
      Spells ⟨"utf-16", "replace"⟩ repeatingBytes (repeating [.ofNat 0xfffd]) ∧
      ∃ t s r, t = .construct (some (.construct .method))
          [.token ⟨some (.plain "METHOD"), some [.ofNat 0xfffd]⟩] ∧
        decode ⟨"utf-16", "replace"⟩ (some 3) repeatingBytes = .ok (some t) ∧
        decodeLinked ⟨"utf-16", "replace"⟩ (some 3) repeatingBytes = .ok (some (s, r)) ∧
        s.agrees t r = true ∧ s.IsTreeRoot r := by
  have hc : isKnown ⟨"utf-16", "replace"⟩ = true := isKnown_of_mem (by decide) (by decide)
  have hspells : Spells ⟨"utf-16", "replace"⟩ repeatingBytes (repeating [.ofNat 0xfffd]) :=
    ⟨.utf16 none, by decide +kernel, by decide +kernel⟩
  obtain ⟨j, hparse, hfits, hread⟩ : ∃ j,
      Json.parse (terms none) (repeating [.ofNat 0xfffd]) = .ok j ∧ j.nesting ≤ 3 ∧
      Tree.ofJson? j = some (.construct (some (.construct .method))
        [.token ⟨some (.plain "METHOD"), some [.ofNat 0xfffd]⟩]) :=
    ⟨.object [("n", .string "METHOD"), ("t", .string "l"),
        ("x", .array [.object [("n", .string "Q"), ("t", .string "p")], .number "1"]),
        ("t", .string "p"), ("c", .number "0"),
        ("c", .array [.object [("t", .string "l"), ("n", .string "METHOD"), ("s", .null),
          ("s", .string [.ofNat 0xfffd])]])],
      by decide +kernel, by decide +kernel, by decide +kernel⟩
  obtain ⟨htree, hdescribes⟩ := Tree.ofJson?_eq_some_iff.1 hread
  obtain ⟨t, s, r, h, hdecode, hlinked, hagrees, hroot⟩ :=
    (decode_tree_language hc (some 3) repeatingBytes).1 _ j hspells
      (Json.parse_eq_ok_iff.1 hparse).1 htree (by rintro _ ⟨⟩; exact hfits)
  exact ⟨hc, hspells, t, s, r, h.unique hdescribes, hdecode, hlinked, hagrees, hroot⟩

/-- Brackets that only open are no document. Reading a thousand and one of them is an error if a
thousand are allowed, and gives no tree if one more is. -/
theorem decode_tree_language_brackets :
    standard.isKnown = true ∧
      standard.decode (some 1000) (List.replicate 1001 0x5b) = .error .tooDeep ∧
      standard.decode (some 1001) (List.replicate 1001 0x5b) = .ok none :=
  ⟨isKnown_of_mem (by decide) (by decide), by decide +kernel, by decide +kernel⟩

end Codec

end JavaText
