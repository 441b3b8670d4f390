import JavaText.Proofs.Json.Grammar

/-!
# How deep a document goes

What the terms of the reader say of a value comes down to two questions that do not depend on one
another: how many arrays and objects are open inside one another at the deepest place
(`Json.nesting`), and whether every object, at whatever place, is accepted. The value passes if both
answers are right, and if only one is wrong, the flaw is that one (`Json.Terms.judges_check`). Where
both are wrong it depends on which place comes first.
-/

namespace JavaText

namespace Json

mutual

/-- How many arrays and objects are open inside one another at the deepest place of a value. -/
def nesting : Json → Nat
  | array items => nestingOfItems items + 1
  | object members => nestingOfMembers members + 1
  | null | bool _ | number _ | string _ => 0

/-- How deep the deepest of several values goes. -/
def nestingOfItems : List Json → Nat
  | [] => 0
  | j :: js => max (nesting j) (nestingOfItems js)

/-- How deep the deepest of the values of members goes. -/
def nestingOfMembers : List (Text × Json) → Nat
  | [] => 0
  | (_, j) :: members => max (nesting j) (nestingOfMembers members)

end

/-- A value goes no deeper than a limit allows, if there is one. -/
def FitsIn (limit : Option Nat) (j : Json) : Prop :=
  ∀ l ∈ limit, j.nesting ≤ l

/-- A value stands in another one, at any depth and under whatever key. -/
inductive Within (j : Json) : Json → Prop
  | here : Within j j
  | item {item : Json} {items : List Json} (hmem : item ∈ items) (h : Within j item) :
      Within j (.array items)
  | member {member : Text × Json} {members : List (Text × Json)} (hmem : member ∈ members)
      (h : Within j member.2) : Within j (.object members)

/-- A value in a value of a third one is in the third one. -/
theorem Within.trans {j k l : Json} (hjk : Within j k) (hkl : Within k l) : Within j l := by
  induction hkl with
  | here => exact hjk
  | item hmem _ ih => exact .item hmem ih
  | member hmem _ ih => exact .member hmem ih

/-- Something holds of the members of every object in a value. -/
def AllObjects (P : List (Text × Json) → Prop) (j : Json) : Prop :=
  ∀ members, Within (.object members) j → P members

/-- The objects of an array are those of its items. -/
theorem allObjects_array {P : List (Text × Json) → Prop} {items : List Json} :
    AllObjects P (.array items) ↔ ∀ item ∈ items, AllObjects P item := by
  constructor
  · exact fun h item hmem members hwithin => h members (.item hmem hwithin)
  · intro h members hwithin
    cases hwithin with
    | item hmem hwithin => exact h _ hmem members hwithin

/-- The objects of an object are itself and those of its members. -/
theorem allObjects_object {P : List (Text × Json) → Prop} {members : List (Text × Json)} :
    AllObjects P (.object members) ↔ P members ∧ ∀ m ∈ members, AllObjects P m.2 := by
  constructor
  · intro h
    exact ⟨h members .here, fun m hmem members' hwithin => h members' (.member hmem hwithin)⟩
  · rintro ⟨hP, h⟩ members' hwithin
    cases hwithin with
    | here => exact hP
    | member hmem hwithin => exact h _ hmem members' hwithin

namespace Terms

variable {terms : Terms} {depth : Nat} {p p' q q' : Prop} {x y : Except Flaw Unit}

/-- Whether a value that goes so deep may stand inside so many arrays and objects; one that opens
none may stand anywhere. -/
def Allows (terms : Terms) (depth nesting : Nat) : Prop :=
  ∀ limit ∈ terms.limit, 0 < nesting → depth + nesting ≤ limit

/-- Whether every object in a value is accepted. -/
def Accepts (terms : Terms) (j : Json) : Prop :=
  AllObjects (terms.accepts · = true) j

/-- What the terms say judges two questions: they find no flaw if both answers are yes, and no flaw
of the one kind where the answer to that question is yes. -/
def Judges (p q : Prop) : Except Flaw Unit → Prop
  | .ok () => p ∧ q
  | .error .tooDeep => ¬p
  | .error .invalid => ¬q

theorem Judges.congr (hp : p ↔ p') (hq : q ↔ q') (h : Judges p q x) : Judges p' q' x := by
  rwa [propext hp, propext hq] at h

/-- Of two things that are looked at one after another, the first flaw counts. -/
theorem Judges.bind (hx : Judges p q x) (hy : Judges p' q' y) :
    Judges (p ∧ p') (q ∧ q') (x.bind fun _ => y) := by
  match x, hx with
  | .error .tooDeep, hp => exact fun h => hp h.1
  | .error .invalid, hq => exact fun h => hq h.1
  | .ok (), ⟨hp, hq⟩ =>
    match y, hy with
    | .error .tooDeep, hp' => exact fun h => hp' h.2
    | .error .invalid, hq' => exact fun h => hq' h.2
    | .ok (), ⟨hp', hq'⟩ => exact ⟨⟨hp, hp'⟩, hq, hq'⟩

/-- One more level fits where the limit, if there is one, is not reached. -/
theorem isFull_eq_false_iff :
    terms.isFull depth = false ↔ ∀ limit ∈ terms.limit, depth < limit := by
  simp [isFull, Option.any_eq_false]

/-- Two values fit side by side if the deeper one does. -/
theorem allows_max {m n : Nat} :
    terms.Allows depth (max m n) ↔ terms.Allows depth m ∧ terms.Allows depth n := by
  constructor
  · intro h
    refine ⟨fun limit hl hm => ?_, fun limit hl hn => ?_⟩
    · have := h limit hl (by omega)
      omega
    · have := h limit hl (by omega)
      omega
  · rintro ⟨hm, hn⟩ limit hl hpos
    have hm := hm limit hl
    have hn := hn limit hl
    omega

/-- An array or object that is opened inside others leaves its values the rest of the limit. -/
theorem allows_succ {n : Nat} (hroom : terms.isFull depth = false) :
    terms.Allows (depth + 1) n ↔ terms.Allows depth (n + 1) := by
  rw [isFull_eq_false_iff] at hroom
  constructor
  · intro h limit hl _
    have hlt := hroom limit hl
    have := h limit hl
    omega
  · intro h limit hl _
    have := h limit hl (by omega)
    omega

/-- No level fits where the limit is reached. -/
theorem not_allows_succ {n : Nat} (hfull : terms.isFull depth = true) :
    ¬terms.Allows depth (n + 1) := by
  intro h
  obtain ⟨limit, hl, hle⟩ : ∃ limit ∈ terms.limit, limit ≤ depth := by
    simpa [isFull, Option.any_eq_true] using hfull
  have := h limit hl (by omega)
  omega

theorem allows_zero : terms.Allows depth 0 :=
  fun _ _ h => absurd h (Nat.lt_irrefl 0)

theorem allows_zero_iff {j : Json} : terms.Allows 0 j.nesting ↔ j.FitsIn terms.limit := by
  refine forall₂_congr fun limit _ => ?_
  omega

/-- A last check of the members fails if the terms do not accept them. -/
theorem judges_accepts (members : List (Text × Json)) :
    Judges True (terms.accepts members = true)
      (if terms.accepts members then .ok () else .error .invalid) := by
  split
  · next h => exact ⟨trivial, h⟩
  · next h => exact h

variable (terms) in
mutual

/-- What the terms say of a value judges whether it goes no deeper than they allow and whether they
accept all objects in it. -/
theorem judges_check : ∀ (depth : Nat) (j : Json),
    Judges (terms.Allows depth j.nesting) (terms.Accepts j) (terms.check depth j)
  | depth, .array items => by
    rw [check, nesting]
    split
    · next hfull => exact not_allows_succ hfull
    · next hroom =>
      exact (judges_checkItems (depth + 1) items).congr (allows_succ (by simpa using hroom))
        allObjects_array.symm
  | depth, .object members => by
    rw [check, nesting]
    split
    · next hfull => exact not_allows_succ hfull
    · next hroom =>
      refine ((judges_checkMembers (depth + 1) members).bind (judges_accepts members)).congr ?_ ?_
      · rw [and_true, allows_succ (by simpa using hroom)]
      · rw [Accepts, allObjects_object, and_comm]
        rfl
  | _, null => ⟨allows_zero, fun _ h => by cases h⟩
  | _, bool _ => ⟨allows_zero, fun _ h => by cases h⟩
  | _, number _ => ⟨allows_zero, fun _ h => by cases h⟩
  | _, string _ => ⟨allows_zero, fun _ h => by cases h⟩

/-- The check of items tells whether they fit and whether the terms accept them. -/
theorem judges_checkItems : ∀ (depth : Nat) (js : List Json),
    Judges (terms.Allows depth (nestingOfItems js)) (∀ j ∈ js, terms.Accepts j)
      (terms.checkItems depth js)
  | _, [] => ⟨allows_zero, by simp⟩
  | depth, j :: js => by
    rw [checkItems, nestingOfItems]
    refine ((judges_check depth j).bind (judges_checkItems depth js)).congr allows_max.symm ?_
    rw [List.forall_mem_cons]

/-- The check of members tells whether they fit and whether the terms accept them. -/
theorem judges_checkMembers : ∀ (depth : Nat) (members : List (Text × Json)),
    Judges (terms.Allows depth (nestingOfMembers members)) (∀ m ∈ members, terms.Accepts m.2)
      (terms.checkMembers depth members)
  | _, [] => ⟨allows_zero, by simp⟩
  | depth, (_, j) :: members => by
    rw [checkMembers, nestingOfMembers]
    refine ((judges_check depth j).bind (judges_checkMembers depth members)).congr
      allows_max.symm ?_
    rw [List.forall_mem_cons]

end

end Terms

end Json

end JavaText
