import JavaText.Proofs.Store.Unfold
import JavaText.Proofs.Tree.Bytes
import Mathlib.Data.List.Lex
import Mathlib.Order.Defs.LinearOrder

/-!
# Which offence ends the walk

Storing walks down from a node. A place in the walk is the list of the indices that lead there
through the children of constructs and the parts of lists and tables (`Store.visit?`), and places
stand in the order of the document just as such lists stand in the lexicographic order: a node comes
before what is below it, and what is below one child before what is below the next. From a circle on
there are places of any depth.

At a place the walk meets an object below some others. It takes offence at a construct, a list or a
table that is below itself there, and at an object of a class that no document knows
(`Store.offence?`). The walk goes on for as long as it meets no offence, so what it says of a list
of objects is what it says of the first one that offends (`Store.walkAll_mapM`), and what it says of
a holder is what it says of its parts one level further down. The fuel lasts: the holders above a
place, up to the first offence, are all different (`Store.Lasts`). So a node is stored just if there
is no offence at any place, and otherwise the first one is the error (`Store.encode_walk`).

No offence depends on what was met elsewhere. A node that is met at two places, neither of them
below the other, is stored twice.
-/

namespace JavaText

/-- The name of the class of an object if no document knows the class. -/
def Role.foreignClass? : Role → Option Text
  | bare => some bareClass
  | outside (.object className) => some className
  | outside (.plain _) | outside (.list _) | outside (.table _) => none
  | construct | token | nothing => none

/-- A holder is written in ASCII if the documents of its parts are. -/
theorem Holder.isAscii_make (h : Holder) {js : List Json} (hjs : ∀ j ∈ js, j.write.IsAscii) :
    (h.make js).write.IsAscii := by
  cases h with
  | construct kind children =>
    refine Json.isAscii_object ?_
    simp only [List.forall_mem_cons, List.not_mem_nil, false_implies, implies_true, and_true]
    exact ⟨Json.isAscii_write _ rfl, Json.isAscii_write _ (Tree.hasNoNumber_toJson_kind _),
      Json.isAscii_array hjs⟩
  | list items => exact Json.isAscii_array hjs
  | table members => exact Json.isAscii_object fun m hm => hjs m.2 (List.of_mem_zip hm).2

namespace Store

/-! ## Places -/

/-- What is met at a place: the objects above it, the nearest first, and the object. -/
def visit? (s : Store) : List Ref → Ref → List Nat → Option (List Ref × Ref)
  | above, r, [] => some (above, r)
  | above, r, i :: place => ((s.partsOf r)[i]?).bind fun q => s.visit? (r :: above) q place

/-- What is wrong with an object below others. -/
def offence? (s : Store) (above : List Ref) (q : Ref) : Option ExportError :=
  match s.documentRole q with
  | .value _ => none
  | .holder _ => if q ∈ above then some .circular else none
  | .foreign className => some (.noTreeNode className)

/-- What is wrong at a place below a node. -/
def offenceAt? (s : Store) (above : List Ref) (r : Ref) (place : List Nat) : Option ExportError :=
  (s.visit? above r place).bind fun v => s.offence? v.1 v.2

/-- What is wrong at a place below several nodes, the first index being that of the node. -/
def offenceIn? (s : Store) (above : List Ref) (rs : List Ref) : List Nat → Option ExportError
  | [] => none
  | i :: place => (rs[i]?).bind fun r => s.offenceAt? above r place

/-- Whether something is wrong at a place and nothing at any place before. -/
def IsFirst (wrong : List Nat → Option ExportError) (place : List Nat) (e : ExportError) : Prop :=
  wrong place = some e ∧ ∀ p < place, wrong p = none

variable {s : Store} {above : List Ref} {r : Ref} {e : ExportError}

/-- There is one first offence at most. -/
theorem IsFirst.unique {wrong : List Nat → Option ExportError} {p q : List Nat} {d : ExportError}
    (hp : IsFirst wrong p d) (hq : IsFirst wrong q e) : p = q ∧ d = e := by
  rcases lt_trichotomy p q with hlt | rfl | hlt
  · cases (hq.2 p hlt).symm.trans hp.1
  · exact ⟨rfl, Option.some.inj (hp.1.symm.trans hq.1)⟩
  · cases (hp.2 q hlt).symm.trans hq.1

/-- An offence at the node itself comes before all others. -/
theorem IsFirst.root (h : s.offence? above r = some e) : IsFirst (s.offenceAt? above r) [] e :=
  ⟨h, fun p hp => absurd hp (List.not_lt_nil p)⟩

/-- What is wrong below a holder that does not offend is wrong below its parts. -/
theorem offenceAt?_holder {h : Holder} (hrole : s.documentRole r = .holder h) (hmem : r ∉ above) :
    s.offenceAt? above r = s.offenceIn? (r :: above) h.parts := by
  funext place
  cases place with
  | nil => simp [offenceAt?, visit?, offence?, offenceIn?, hrole, hmem]
  | cons i place =>
    simp only [offenceAt?, visit?, offenceIn?, partsOf_holder hrole]
    exact Option.bind_assoc _ _ _

/-- Nothing is wrong with a value, and nothing is below it. -/
theorem offenceAt?_value {j : Json} (hrole : s.documentRole r = .value j) (place : List Nat) :
    s.offenceAt? above r place = none := by
  cases place <;> simp [offenceAt?, visit?, offence?, partsOf, hrole]

/-- A circle offends. -/
theorem offence?_circular {h : Holder} (hrole : s.documentRole r = .holder h) (hmem : r ∈ above) :
    s.offence? above r = some .circular := by
  rw [offence?, hrole]
  exact if_pos hmem

/-- An object of a class that no document knows offends. -/
theorem offence?_foreign {name : Text} (hrole : s.documentRole r = .foreign name) :
    s.offence? above r = some (.noTreeNode name) := by
  rw [offence?, hrole]

/-- The classes that no document knows are those of bare nodes and of outside objects. -/
theorem foreignClass?_eq_some_iff {name : Text} :
    (s.role r).foreignClass? = some name ↔ s.documentRole r = .foreign name := by
  unfold documentRole
  cases s.role r with
  | outside o => cases o <;> simp [Role.foreignClass?]
  | _ => simp [Role.foreignClass?]

/-- Nothing is wrong below several nodes if nothing is below the first and below the others. -/
theorem offenceIn?_cons_eq_none {rs : List Ref} (hr : ∀ p, s.offenceAt? above r p = none)
    (hrs : ∀ p, s.offenceIn? above rs p = none) (place : List Nat) :
    s.offenceIn? above (r :: rs) place = none := by
  cases place with
  | nil => rfl
  | cons i place =>
    cases i with
    | zero => exact hr place
    | succ i => exact hrs (i :: place)

/-- An offence below the first of several nodes comes before those below the others. -/
theorem IsFirst.head {rs : List Ref} {place : List Nat}
    (h : IsFirst (s.offenceAt? above r) place e) :
    IsFirst (s.offenceIn? above (r :: rs)) (0 :: place) e := by
  refine ⟨h.1, fun p hp => ?_⟩
  cases p with
  | nil => rfl
  | cons i p =>
    rcases List.cons_lt_cons_iff.1 hp with hlt | ⟨rfl, hlt⟩
    · exact absurd hlt (Nat.not_lt_zero i)
    · exact h.2 p hlt

/-- Where nothing is wrong below the first of several nodes, the others decide. -/
theorem IsFirst.tail {rs : List Ref} {place : List Nat}
    (hr : ∀ p, s.offenceAt? above r p = none) (h : IsFirst (s.offenceIn? above rs) place e) :
    ∃ p, IsFirst (s.offenceIn? above (r :: rs)) p e := by
  cases place with
  | nil => cases h.1
  | cons i place =>
    refine ⟨(i + 1) :: place, h.1, fun p hp => ?_⟩
    cases p with
    | nil => rfl
    | cons j p =>
      cases j with
      | zero => exact hr p
      | succ j =>
        have hlt : j :: p < i :: place := by
          rw [List.cons_lt_cons_iff] at hp ⊢
          rwa [Nat.add_lt_add_iff_right, Nat.add_right_cancel_iff] at hp
        exact h.2 (j :: p) hlt

/-! ## The walk -/

/-- What a result says about the places below a node: nothing is wrong at them and they form the
document, or the error is the first one. -/
def Walk (s : Store) (above : List Ref) (r : Ref) : Except ExportError Json → Prop
  | .ok j => s.Forms j r ∧ ∀ p, s.offenceAt? above r p = none
  | .error e => ∃ p, IsFirst (s.offenceAt? above r) p e

/-- What a result says about the places below several nodes. -/
def WalkAll (s : Store) (above : List Ref) (rs : List Ref) : Except ExportError (List Json) → Prop
  | .ok js => s.FormAll js rs ∧ ∀ p, s.offenceIn? above rs p = none
  | .error e => ∃ p, IsFirst (s.offenceIn? above rs) p e

/-- A walk over several nodes stops at the first one below which something is wrong. -/
theorem walkAll_mapM {walk : Ref → Except ExportError Json}
    (h : ∀ r, s.Walk above r (walk r)) (rs : List Ref) : s.WalkAll above rs (rs.mapM walk) := by
  induction rs with
  | nil => exact ⟨.nil, fun p => by cases p <;> simp [offenceIn?]⟩
  | cons r rs ih =>
    have hr := h r
    rw [List.mapM_cons]
    cases hwalk : walk r with
    | error e =>
      rw [hwalk] at hr
      obtain ⟨p, hp⟩ := hr
      exact ⟨0 :: p, hp.head⟩
    | ok j =>
      rw [hwalk] at hr
      cases hrest : rs.mapM walk with
      | error e =>
        rw [hrest] at ih
        obtain ⟨p, hp⟩ := ih
        exact hp.tail hr.2
      | ok js =>
        rw [hrest] at ih
        exact ⟨.cons hr.1 ih.1, offenceIn?_cons_eq_none hr.2 ih.2⟩

/-- The fuel lasts below some objects: they are all different, and with the fuel they outnumber the
objects of the store. -/
structure Lasts (s : Store) (fuel : Nat) (above : List Ref) : Prop where
  nodup : above.Nodup
  stored : ∀ a ∈ above, a < s.size
  enough : s.size < fuel + above.length

namespace Lasts

variable {fuel : Nat}

theorem ne_zero (h : s.Lasts fuel above) : fuel ≠ 0 := by
  rintro rfl
  have hle := length_le_of_lt h.nodup h.stored
  have henough := h.enough
  omega

/-- The unit of fuel that is spent on a holder is made up for by the holder. -/
theorem cons (h : s.Lasts (fuel + 1) above) {holder : Holder}
    (hrole : s.documentRole r = .holder holder) (hmem : r ∉ above) :
    s.Lasts fuel (r :: above) := by
  refine ⟨List.nodup_cons.2 ⟨hmem, h.nodup⟩,
    List.forall_mem_cons.2 ⟨lt_size_of_holder hrole, h.stored⟩, ?_⟩
  have henough := h.enough
  rw [List.length_cons]
  omega

end Lasts

/-- What is not on the way down to itself is walked through. -/
theorem documentFrom_holder {h : Holder} {r : Ref} {path : List Ref} (fuel : Nat)
    (hrole : s.documentRole r = .holder h) (hmem : r ∉ path) : s.documentFrom (fuel + 1) path r =
      (h.parts.mapM (s.documentFrom fuel (r :: path))).map h.make := by
  have hcontains : ¬path.contains r = true := fun hc => hmem (List.contains_iff_mem.1 hc)
  rw [documentFrom, hrole]
  exact if_neg hcontains

/-- Storing the objects below a node gives their document or the first offence. -/
theorem walk_documentFrom {fuel : Nat} (h : s.Lasts fuel above) :
    s.Walk above r (s.documentFrom fuel above r) := by
  induction fuel generalizing above r with
  | zero => exact absurd rfl h.ne_zero
  | succ fuel ih =>
    cases hrole : s.documentRole r with
    | value j =>
      rw [documentFrom, hrole]
      exact ⟨.value hrole, offenceAt?_value hrole⟩
    | foreign name =>
      rw [documentFrom, hrole]
      exact ⟨[], .root (offence?_foreign hrole)⟩
    | holder holder =>
      by_cases hmem : r ∈ above
      · rw [documentFrom, hrole]
        simp only [if_pos (List.contains_iff_mem.2 hmem)]
        exact ⟨[], .root (offence?_circular hrole hmem)⟩
      · -- the walks below the parts share the way down to them and what is left of the fuel
        have hwalk : ∀ q, s.Walk (r :: above) q (s.documentFrom fuel (r :: above) q) :=
          fun q => ih (h.cons hrole hmem)
        have hall := walkAll_mapM hwalk holder.parts
        rw [documentFrom_holder fuel hrole hmem]
        cases hmap : holder.parts.mapM (s.documentFrom fuel (r :: above)) with
        | error e =>
          rw [hmap] at hall
          obtain ⟨p, hp⟩ := hall
          exact ⟨p, by rwa [offenceAt?_holder hrole hmem]⟩
        | ok js =>
          rw [hmap] at hall
          refine ⟨.holder hrole hall.1, fun p => ?_⟩
          rw [offenceAt?_holder hrole hmem]
          exact hall.2 p

theorem walk_document (s : Store) (r : Ref) : s.Walk [] r (s.document r) :=
  walk_documentFrom ⟨List.nodup_nil, fun a ha => (List.not_mem_nil ha).elim, by simp⟩

/-! ## Which nodes can be stored -/

/-- What is met at a place is below the node, and below each object above it that was not above the
node, which is below the node itself. -/
theorem meets_of_visit? {place : List Nat} {way : List Ref} {q : Ref}
    (h : s.visit? above r place = some (way, q)) : s.Meets r q ∧
      ∀ a ∈ way, a ∈ above ∨ s.Meets r a ∧ Relation.TransGen s.Has a q := by
  induction place generalizing above r with
  | nil =>
    cases h
    exact ⟨.refl, fun a ha => .inl ha⟩
  | cons i place ih =>
    obtain ⟨p, hp, hvisit⟩ := Option.bind_eq_some_iff.1 h
    have hpart : s.Has r p := List.mem_of_getElem? hp
    obtain ⟨hmeets, hway⟩ := ih hvisit
    refine ⟨.head hpart hmeets, fun a ha => ?_⟩
    rcases hway a ha with habove | ⟨hbelow, hself⟩
    · rcases List.mem_cons.1 habove with rfl | habove
      · exact .inr ⟨.refl, .head' hpart hmeets⟩
      · exact .inl habove
    · exact .inr ⟨.head hpart hbelow, hself⟩

/-- What forms a document is of no class that documents do not know. -/
theorem Forms.foreignClass? {j : Json} (h : s.Forms j r) : (s.role r).foreignClass? = none := by
  rw [Option.eq_none_iff_forall_ne_some]
  intro name hname
  have hforeign := foreignClass?_eq_some_iff.1 hname
  cases h with
  | value hrole => cases hrole.symm.trans hforeign
  | holder hrole _ => cases hrole.symm.trans hforeign

/-- Where no object is met that is of a class that documents do not know or contains itself, nothing
is wrong at any place. -/
theorem offenceAt?_eq_none
    (h : ∀ q, s.Meets r q → (s.role q).foreignClass? = none ∧ ¬s.ContainsItself q)
    (place : List Nat) : s.offenceAt? [] r place = none := by
  cases hvisit : s.visit? [] r place with
  | none => rw [offenceAt?, hvisit, Option.bind_none]
  | some v =>
    obtain ⟨way, q⟩ := v
    obtain ⟨hmeets, hway⟩ := meets_of_visit? hvisit
    obtain ⟨hforeign, hself⟩ := h q hmeets
    have hnot : q ∉ way := fun hq => (hway q hq).elim List.not_mem_nil fun hbelow => hself hbelow.2
    rw [offenceAt?, hvisit, Option.bind_some, offence?]
    cases hrole : s.documentRole q with
    | value j => rfl
    | holder holder => exact if_neg hnot
    | foreign name => cases hforeign.symm.trans (foreignClass?_eq_some_iff.2 hrole)

/-- What is met below an object that forms a document forms a document, so there is no offence. -/
theorem Forms.sound_of_meets {j : Json} (h : s.Forms j r) {q : Ref} (hq : s.Meets r q) :
    (s.role q).foreignClass? = none ∧ ¬s.ContainsItself q := by
  obtain ⟨k, hk, -⟩ := h.of_meets hq
  exact ⟨hk.foreignClass?, hk.not_containsItself⟩

/-- Walking down from a node gives the document that the objects below it form. -/
theorem document_of_forms {j : Json} (h : s.Forms j r) : s.document r = .ok j := by
  have hwalk := s.walk_document r
  cases hdocument : s.document r with
  | ok k =>
    rw [hdocument] at hwalk
    rw [hwalk.1.unique h]
  | error e =>
    rw [hdocument] at hwalk
    obtain ⟨place, hfirst⟩ := hwalk
    cases (offenceAt?_eq_none (fun _ => h.sound_of_meets) place).symm.trans hfirst.1

/-- Storing a node is storing the tree that the nodes below it form. -/
theorem encode_of_holds (c : Codec) {t : Tree} (h : s.holds t r) :
    s.encode c r = (c.encode t).mapError .bytes := by
  rw [encode, document_of_forms (forms_of_holds h)]
  rfl

/-- Storing a node fails with the first offence. -/
theorem document_eq_error_iff :
    s.document r = .error e ↔ ∃ p, IsFirst (s.offenceAt? [] r) p e := by
  have hwalk := s.walk_document r
  constructor
  · intro h
    rwa [h] at hwalk
  · rintro ⟨p, hp⟩
    cases h : s.document r with
    | ok j =>
      rw [h] at hwalk
      cases (hwalk.2 p).symm.trans hp.1
    | error d =>
      rw [h] at hwalk
      obtain ⟨q, hq⟩ := hwalk
      rw [(hq.unique hp).2]

/-- Nothing is wrong below a node just if the objects below it form a document. -/
theorem offenceAt?_eq_none_iff :
    (∀ p, s.offenceAt? [] r p = none) ↔ ∃ j, s.Forms j r := by
  constructor
  · intro hnone
    have hwalk := s.walk_document r
    cases h : s.document r with
    | ok j =>
      rw [h] at hwalk
      exact ⟨j, hwalk.1⟩
    | error e =>
      rw [h] at hwalk
      obtain ⟨p, hp⟩ := hwalk
      cases (hnone p).symm.trans hp.1
  · rintro ⟨j, hj⟩
    exact offenceAt?_eq_none fun _ => hj.sound_of_meets

/-- Nothing is wrong below a node just if no object is met that is of a class that documents do not
know or contains itself. -/
theorem offenceAt?_eq_none_iff_meets : (∀ p, s.offenceAt? [] r p = none) ↔
    ∀ q, s.Meets r q → (s.role q).foreignClass? = none ∧ ¬s.ContainsItself q := by
  refine ⟨fun hnone q hq => ?_, offenceAt?_eq_none⟩
  obtain ⟨j, hj⟩ := offenceAt?_eq_none_iff.1 hnone
  exact hj.sound_of_meets hq

/-! ## Storing -/

mutual

/-- What objects form is written in ASCII. -/
theorem Forms.isAscii : ∀ {j : Json} {r : Ref}, s.Forms j r → j.write.IsAscii
  | j, r, .value hrole => by
    unfold documentRole at hrole
    split at hrole <;> cases hrole
    · exact Json.isAscii_write _ (Tree.hasNoNumber_toJson (.token _))
    · next v _ => exact v.isAscii
    · exact Text.isAscii_of_all (by decide)
  | _, _, .holder _ hbelow => Holder.isAscii_make _ (FormAll.isAscii hbelow)

theorem FormAll.isAscii : ∀ {js : List Json} {rs : List Ref}, s.FormAll js rs →
    ∀ j ∈ js, j.write.IsAscii
  | _, _, .nil => fun _ hj => (List.not_mem_nil hj).elim
  | _, _, .cons h hall => List.forall_mem_cons.2 ⟨Forms.isAscii h, FormAll.isAscii hall⟩

end

/-- What is wrong at a place is wrong with the object that is met there, and the message says what:
that the object is below itself, or of which class it is. -/
theorem exists_visit?_of_offenceAt? {place : List Nat} (h : s.offenceAt? [] r place = some e) :
    ∃ above q, s.visit? [] r place = some (above, q) ∧ s.offence? above q = some e ∧
      ((q ∈ above ∧ e.message = Text.ofString "Circular reference detected") ∨
        ∃ name, (s.role q).foreignClass? = some name ∧ e.message =
          Text.ofString "Object of type " ++ name ++ Text.ofString " is not a tree node.") := by
  obtain ⟨⟨way, q⟩, hvisit, hwrong⟩ := Option.bind_eq_some_iff.1 h
  refine ⟨way, q, hvisit, hwrong, ?_⟩
  dsimp only [offence?] at hwrong
  split at hwrong
  · cases hwrong
  · obtain ⟨hmem, hcircular⟩ := Option.ite_none_right_eq_some.1 hwrong
    cases hcircular
    exact Or.inl ⟨hmem, rfl⟩
  · next name hrole =>
    cases hwrong
    exact Or.inr ⟨name, foreignClass?_eq_some_iff.2 hrole, rfl⟩

/-- Where nothing is wrong below a node, its document is written. -/
theorem offenceAt?_eq_none_iff_encode {c : Codec} (hc : c.isUsable) :
    (∀ place, s.offenceAt? [] r place = none) ↔
      ∃ j bs, s.Forms j r ∧ c.encodeText j.write = .ok bs ∧ s.encode c r = .ok bs := by
  rw [offenceAt?_eq_none_iff]
  constructor
  · rintro ⟨j, hj⟩
    obtain ⟨bs, hencode, -⟩ := Codec.exists_encodeText hc hj.isAscii
    refine ⟨j, bs, hj, hencode, ?_⟩
    rw [encode, document_of_forms hj]
    simp only [hencode]
    rfl
  · rintro ⟨j, -, hj, -⟩
    exact ⟨j, hj⟩

/-- Storing a node fails with the first offence only. -/
theorem encode_eq_error_iff {c : Codec} (hc : c.isUsable) (w : WriteError) :
    s.encode c r = .error w ↔
      ∃ e place, IsFirst (s.offenceAt? [] r) place e ∧ w = .tree e := by
  cases h : s.document r with
  | ok j =>
    have hwalk := s.walk_document r
    rw [h] at hwalk
    obtain ⟨-, bs, -, -, hencode⟩ := (offenceAt?_eq_none_iff_encode hc).1 hwalk.2
    refine iff_of_false (fun herror => ?_) ?_
    · cases hencode.symm.trans herror
    · rintro ⟨e, place, hfirst, -⟩
      cases (hwalk.2 place).symm.trans hfirst.1
  | error d =>
    have hencode : s.encode c r = .error (.tree d) := by
      rw [encode, h]
    constructor
    · intro herror
      obtain ⟨place, hfirst⟩ := document_eq_error_iff.1 h
      exact ⟨d, place, hfirst, Except.error.inj (herror.symm.trans hencode)⟩
    · rintro ⟨e, place, hfirst, rfl⟩
      rw [hencode, Except.error.inj (h.symm.trans (document_eq_error_iff.2 ⟨place, hfirst⟩))]

/-- Storing a node always comes to an end. If nothing is wrong at any place below the node, the
result is the document that the objects below it form, written in the encoding; and where all of
them are nodes or of a class that no document knows, this is the tree that they form. Nothing is
wrong just if no object is met below the node that is of a class that no document knows or contains
itself, however often they are met. Otherwise there is a first place at which something is wrong,
and this is the error, which says that an object is below itself or of which class it is. -/
theorem encode_walk {c : Codec} (hc : c.isUsable) :
    ((∀ place, s.offenceAt? [] r place = none) ↔
      ∃ j bs, s.Forms j r ∧ c.encodeText j.write = .ok bs ∧ s.encode c r = .ok bs) ∧
    ((∀ q, s.Meets r q → (s.role q).isPlain = false) →
      ((∀ place, s.offenceAt? [] r place = none) ↔
        ∃ t bs, s.holds t r = true ∧ c.encode t = .ok bs ∧ s.encode c r = .ok bs)) ∧
    ((∀ place, s.offenceAt? [] r place = none) ↔ ∀ q, s.Meets r q →
      (s.role q).foreignClass? = none ∧ ¬s.ContainsItself q) ∧
    (∀ w, s.encode c r = .error w ↔
      ∃ e place, IsFirst (s.offenceAt? [] r) place e ∧ w = .tree e) ∧
    ∀ place e, s.offenceAt? [] r place = some e →
      ∃ above q, s.visit? [] r place = some (above, q) ∧ s.offence? above q = some e ∧
        ((q ∈ above ∧ e.message = Text.ofString "Circular reference detected") ∨
          ∃ name, (s.role q).foreignClass? = some name ∧ e.message =
            Text.ofString "Object of type " ++ name ++ Text.ofString " is not a tree node.") := by
  refine ⟨offenceAt?_eq_none_iff_encode hc, fun hplain => ?_, offenceAt?_eq_none_iff_meets,
    encode_eq_error_iff hc, fun _ _ => exists_visit?_of_offenceAt?⟩
  constructor
  · intro hnone
    obtain ⟨j, bs, hj, hbytes, hencode⟩ := (offenceAt?_eq_none_iff_encode hc).1 hnone
    obtain ⟨t, ht, rfl⟩ := hj.exists_holds hplain
    exact ⟨t, bs, ht, hbytes, hencode⟩
  · rintro ⟨t, -, ht, -⟩
    exact offenceAt?_eq_none_iff.2 ⟨_, forms_of_holds ht⟩

/-- A text as a plain value. -/
def plainText : Plain :=
  { value := .string "x", isAscii := Text.isAscii_of_all (by decide +kernel) }

/-- A construct that lists a token, a construct that lists the same token twice, a construct that
leads back, and an outside object; one that lists the outside object first; and one that lists a
text, nothing, and a list with a token. -/
def knotted : Store :=
  { nodes := #[
      ⟨.construct, .value (.plain "top"), .absent, .value [1, 2, 3, 4], none⟩,
      ⟨.token, .value (.plain "leaf"), .value (Text.ofString "x"), .value [], some 2⟩,
      ⟨.construct, .value (.plain "twice"), .absent, .value [1, 1], some 0⟩,
      ⟨.construct, .value (.plain "back"), .absent, .value [1, 0], some 0⟩,
      ⟨.outside (.object "Stranger"), .absent, .absent, .absent, none⟩,
      ⟨.construct, .value (.plain "turned"), .absent, .value [2, 4, 3], none⟩,
      ⟨.construct, .value (.plain "mixed"), .absent, .value [7, 8, 9], none⟩,
      ⟨.outside (.plain plainText), .absent, .absent, .absent, none⟩,
      .nothing,
      ⟨.outside (.list [1]), .absent, .absent, .absent, none⟩] }

/-- The circle is met before the outside object from the one construct and after it from the other;
the token that is met twice is stored, and so are the text, the nothing and the list. -/
theorem encode_walk_knotted :
    knotted.encode .standard 0 = .error (.tree .circular) ∧
    (∃ place, IsFirst (knotted.offenceAt? [] 0) place .circular) ∧
    knotted.encode .standard 5 = .error (.tree (.noTreeNode "Stranger")) ∧
    (∃ place, IsFirst (knotted.offenceAt? [] 5) place (.noTreeNode "Stranger")) ∧
    (∀ place, knotted.offenceAt? [] 2 place = none) ∧
    (∃ t bs, knotted.holds t 2 = true ∧ Codec.standard.encode t = .ok bs ∧
      knotted.encode .standard 2 = .ok bs) ∧
    ∃ j bs, knotted.Forms j 6 ∧ Codec.standard.encodeText j.write = .ok bs ∧
      knotted.encode .standard 6 = .ok bs := by
  have hc : Codec.standard.isUsable = true := Codec.isUsable_of_mem (by decide) (by decide)
  have hcircle : knotted.encode .standard 0 = .error (.tree .circular) := by decide +kernel
  have houtside : knotted.encode .standard 5 = .error (.tree (.noTreeNode "Stranger")) := by
    decide +kernel
  have htoken : knotted.Forms (Token.toJson ⟨some (.plain "leaf"), some "x"⟩) 1 := .value rfl
  have htwice : ∀ place, knotted.offenceAt? [] 2 place = none :=
    offenceAt?_eq_none_iff.2
      ⟨_, .holder (documentRole_construct rfl) (.cons htoken (.cons htoken .nil))⟩
  have hlist : knotted.Forms (.array [Token.toJson ⟨some (.plain "leaf"), some "x"⟩]) 9 :=
    .holder (h := .list [1]) rfl (.cons htoken .nil)
  have hmixed : ∀ place, knotted.offenceAt? [] 6 place = none :=
    offenceAt?_eq_none_iff.2 ⟨_, .holder (documentRole_construct rfl)
      (.cons (.value rfl) (.cons (.value rfl) (.cons hlist .nil)))⟩
  have hplain : ∀ q, knotted.Meets 2 q → (knotted.role q).isPlain = false := by
    refine forall_meets_iff.2 ⟨rfl, fun p hp => ?_⟩
    have hp' : p ∈ [1, 1] := hp
    obtain rfl : p = 1 := by simpa using hp'
    exact forall_meets_iff.2 ⟨rfl, fun _ hnone => (List.not_mem_nil hnone).elim⟩
  refine ⟨hcircle, ?_, houtside, ?_, htwice, ((encode_walk hc).2.1 hplain).1 htwice,
    (encode_walk hc).1.1 hmixed⟩
  · obtain ⟨e, place, hfirst, heq⟩ := ((encode_walk hc).2.2.2.1 _).1 hcircle
    cases heq
    exact ⟨place, hfirst⟩
  · obtain ⟨e, place, hfirst, heq⟩ := ((encode_walk hc).2.2.2.1 _).1 houtside
    cases heq
    exact ⟨place, hfirst⟩

/-- What a construct lists can be neither a construct nor a token and still be stored. -/
theorem encode_walk_plain :
    knotted.childrenOf 6 = [7, 8, 9] ∧ knotted.role 7 = .outside (.plain plainText) ∧
    knotted.role 8 = .nothing ∧ knotted.role 9 = .outside (.list [1]) ∧
    ∃ bs, Codec.standard.encodeText
        (Text.ofString "\x7b\"t\": \"p\", \"n\": \"mixed\", \"c\": [\"x\", null, "
          ++ Text.ofString "[\x7b\"t\": \"l\", \"n\": \"leaf\", \"s\": \"x\"\x7d]]\x7d")
        = .ok bs ∧ knotted.encode .standard 6 = .ok bs :=
  ⟨rfl, rfl, rfl, rfl, _, rfl, by decide +kernel⟩

end Store

end JavaText
