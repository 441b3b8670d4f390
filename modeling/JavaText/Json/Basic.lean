import JavaText.Text.Basic

/-!
# JSON values

The values of a JSON document. An object keeps its members in the order of the document, so a key
may occur more than once; `Json.last?` is the look-up in which the last member of a key counts.
Numbers keep their spelling, since nothing is ever computed with them.
-/

namespace JavaText

/-- A JSON value. -/
inductive Json
  | null
  | bool (b : Bool)
  | number (spelling : Text)
  | string (t : Text)
  | array (items : List Json)
  | object (members : List (Text × Json))
  deriving Inhabited, Repr

namespace Json

/-- The value of the last member with the given key. -/
def last? {α : Type} (key : Text) : List (Text × α) → Option α
  | [] => none
  | (k, a) :: members =>
    match last? key members with
    | some b => some b
    | none => if k = key then some a else none

/-! ## Sameness -/

mutual

/-- Whether two values are the same. -/
def same : Json → Json → Bool
  | null, null => true
  | bool a, bool b => a == b
  | number a, number b => a == b
  | string a, string b => a == b
  | array as, array bs => sameItems as bs
  | object as, object bs => sameMembers as bs
  | _, _ => false

/-- Whether two lists of values are the same. -/
def sameItems : List Json → List Json → Bool
  | [], [] => true
  | a :: as, b :: bs => same a b && sameItems as bs
  | _, _ => false

/-- Whether two lists of members are the same. -/
def sameMembers : List (Text × Json) → List (Text × Json) → Bool
  | [], [] => true
  | (k, a) :: as, (l, b) :: bs => k == l && same a b && sameMembers as bs
  | _, _ => false

end

mutual

theorem same_iff : ∀ {a b : Json}, same a b = true ↔ a = b
  | null, b => by cases b <;> simp [same]
  | bool _, b => by cases b <;> simp [same]
  | number _, b => by cases b <;> simp [same]
  | string _, b => by cases b <;> simp [same]
  | array as, b => by
    cases b with
    | array bs => simp [same, sameItems_iff]
    | _ => simp [same]
  | object as, b => by
    cases b with
    | object bs => simp [same, sameMembers_iff]
    | _ => simp [same]

theorem sameItems_iff : ∀ {as bs : List Json}, sameItems as bs = true ↔ as = bs
  | [], bs => by cases bs <;> simp [sameItems]
  | a :: as, bs => by
    cases bs with
    | nil => simp [sameItems]
    | cons b bs => simp [sameItems, same_iff, sameItems_iff]

theorem sameMembers_iff : ∀ {as bs : List (Text × Json)}, sameMembers as bs = true ↔ as = bs
  | [], bs => by cases bs <;> simp [sameMembers]
  | (k, a) :: as, bs => by
    cases bs with
    | nil => simp [sameMembers]
    | cons m bs =>
      obtain ⟨l, b⟩ := m
      simp [sameMembers, same_iff, sameMembers_iff]

end

instance : DecidableEq Json := fun _ _ => decidable_of_iff _ same_iff

/-! ## Signs -/

/-- A double quote. -/
def quote : CodePoint := .ofNat 0x22

/-- A backslash. -/
def backslash : CodePoint := '\\'

/-- The start of an array. -/
def openArray : CodePoint := '['

/-- The end of an array. -/
def closeArray : CodePoint := ']'

/-- The start of an object. -/
def openObject : CodePoint := '\x7b'

/-- The end of an object. -/
def closeObject : CodePoint := '\x7d'

end Json

end JavaText
