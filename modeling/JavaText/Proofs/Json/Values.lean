import JavaText.Proofs.Json.Nesting

/-!
# Values of a document, written and read

The text that is written for a value without numbers follows the rules of documents
(`Json.value_write`). What the rules give for it is the value with the surrogate pairs of its
strings joined, so this is what is read back if the terms of the reader allow it
(`Json.parse_write`). Joining pairs does not change what is written (`Json.write_joined`).
-/

namespace JavaText

namespace Json

/-! ## Values without numbers -/

mutual

/-- Whether no number is in a value. -/
def hasNoNumber : Json → Bool
  | null | bool _ | string _ => true
  | number _ => false
  | array items => haveNoNumber items
  | object members => membersHaveNoNumber members

/-- Whether no number is in several values. -/
def haveNoNumber : List Json → Bool
  | [] => true
  | j :: js => hasNoNumber j && haveNoNumber js

/-- Whether no number is in the values of members. -/
def membersHaveNoNumber : List (Text × Json) → Bool
  | [] => true
  | (_, j) :: members => hasNoNumber j && membersHaveNoNumber members

end

mutual

/-- A value with the surrogate pairs of all its strings joined. -/
def joined : Json → Json
  | null => null
  | bool b => bool b
  | number spelling => number spelling
  | string t => string t.joinPairs
  | array items => array (joinedAll items)
  | object members => object (joinedMembers members)

/-- Several values with the surrogate pairs of all their strings joined. -/
def joinedAll : List Json → List Json
  | [] => []
  | j :: js => joined j :: joinedAll js

/-- Members with the surrogate pairs of all their strings joined. -/
def joinedMembers : List (Text × Json) → List (Text × Json)
  | [] => []
  | (key, j) :: members => (key.joinPairs, joined j) :: joinedMembers members

end

/-! ## What is written follows the rules -/

/-- What is written for a text spells the text with its surrogate pairs joined. -/
theorem spells_flatMap_writeChar (t : Text) : Spells (t.flatMap writeChar) t.joinPairs := by
  obtain ⟨u, hu, hspells⟩ := readString?_eq_some_iff.1 (readString?_write t [])
  rwa [List.append_cancel_right hu]

mutual

/-- A value is written by the rules. -/
theorem value_write : ∀ j : Json, j.hasNoNumber → Value j.write j.joined
  | null, _ => .word (by simp [words, write, joined])
  | bool true, _ => .word (by simp [words, write, joined])
  | bool false, _ => .word (by simp [words, write, joined])
  | number _, h => by cases h
  | string t, _ => .string (spells_flatMap_writeChar t)
  | array [], _ => .emptyArray (w := []) (by simp [AllBlank])
  | array (j :: js), h => .array (elements_write (j :: js) (List.cons_ne_nil _ _) h)
  | object [], _ => .emptyObject (w := []) (by simp [AllBlank])
  | object (m :: members), h => .object (members_write (m :: members) (List.cons_ne_nil _ _) h)

/-- Items without numbers are written as elements. -/
theorem elements_write : ∀ js : List Json, js ≠ [] → haveNoNumber js →
    Elements (writeItems js) (joinedAll js)
  | [], hne, _ => absurd rfl hne
  | [j], _, h => .one (value_write j (Bool.and_eq_true_iff.1 h).1).toElement
  | j :: k :: ks, _, h => by
    obtain ⟨hj, hks⟩ := Bool.and_eq_true_iff.1 h
    have hrest := elements_write (k :: ks) (List.cons_ne_nil _ _) hks
    rw [writeItems, List.append_assoc]
    exact .more (value_write j hj).toElement (hrest.blanks_append allBlank_space)

/-- Members without numbers are written as members. -/
theorem members_write : ∀ members : List (Text × Json), members ≠ [] →
    membersHaveNoNumber members → Members (writeMembers members) (joinedMembers members)
  | [], hne, _ => absurd rfl hne
  | [(key, j)], _, h => by
    have hmember := member_spaced (spells_flatMap_writeChar key)
      (value_write j (Bool.and_eq_true_iff.1 h).1)
    rw [writeMembers, writeString]
    simp only [List.cons_append, List.append_assoc]
    exact .one hmember
  | (key, j) :: m :: members, _, h => by
    obtain ⟨hj, hmembers⟩ := Bool.and_eq_true_iff.1 h
    have hmember := member_spaced (spells_flatMap_writeChar key) (value_write j hj)
    have hrest := members_write (m :: members) (List.cons_ne_nil _ _) hmembers
    have hmore := Members.more hmember (hrest.blanks_append allBlank_space)
    rw [writeMembers, writeString]
    simp only [List.cons_append, List.append_assoc] at hmore ⊢
    exact hmore

end

/-- The document of a value is read as the value with its surrogate pairs joined, unless the terms
refuse it. -/
theorem parse_write {j : Json} (h : j.hasNoNumber) (terms : Terms) :
    parse terms j.write = (terms.check 0 j.joined).map fun _ => j.joined :=
  (value_write j h).toElement.parse

/-! ## What is written -/

/-- A pair is written as the character is that it makes. -/
theorem writeString_joinPairs (t : Text) : writeString t.joinPairs = writeString t := by
  rw [writeString, writeString, flatMap_writeChar_joinPairs]

mutual

/-- Joining pairs does not change what is written. -/
theorem write_joined : ∀ j : Json, j.joined.write = j.write
  | null | bool _ | number _ => rfl
  | string t => writeString_joinPairs t
  | array items => by rw [joined, write, write, writeItems_joined items]
  | object members => by rw [joined, write, write, writeMembers_joined members]

/-- So pairs make no difference to items that are written. -/
theorem writeItems_joined : ∀ js : List Json, writeItems (joinedAll js) = writeItems js
  | [] => rfl
  | [j] => write_joined j
  | j :: k :: ks => by
    have ih := writeItems_joined (k :: ks)
    rw [joinedAll] at ih
    rw [joinedAll, joinedAll, writeItems, writeItems, write_joined j, ih]

/-- Nor do they make one to members. -/
theorem writeMembers_joined : ∀ members : List (Text × Json),
    writeMembers (joinedMembers members) = writeMembers members
  | [] => rfl
  | [(key, j)] => by
    rw [joinedMembers, joinedMembers, writeMembers, writeMembers, writeString_joinPairs,
      write_joined j]
  | (key, j) :: (key', j') :: members => by
    have ih := writeMembers_joined ((key', j') :: members)
    rw [joinedMembers] at ih
    rw [joinedMembers, joinedMembers, writeMembers, writeMembers, writeString_joinPairs,
      write_joined j, ih]

end

mutual

/-- Joining pairs does not change how deep a value goes. -/
theorem nesting_joined : ∀ j : Json, j.joined.nesting = j.nesting
  | null | bool _ | number _ | string _ => rfl
  | array items => by rw [joined, nesting, nesting, nestingOfItems_joined items]
  | object members => by rw [joined, nesting, nesting, nestingOfMembers_joined members]

theorem nestingOfItems_joined : ∀ js : List Json, nestingOfItems (joinedAll js) = nestingOfItems js
  | [] => rfl
  | j :: js => by
    rw [joinedAll, nestingOfItems, nestingOfItems, nesting_joined j, nestingOfItems_joined js]

theorem nestingOfMembers_joined : ∀ members : List (Text × Json),
    nestingOfMembers (joinedMembers members) = nestingOfMembers members
  | [] => rfl
  | (_, j) :: members => by
    rw [joinedMembers, nestingOfMembers, nestingOfMembers, nesting_joined j,
      nestingOfMembers_joined members]

end

/-- Joining pairs changes no nesting. -/
theorem fitsIn_joined {limit : Option Nat} {j : Json} : j.joined.FitsIn limit ↔ j.FitsIn limit := by
  rw [FitsIn, FitsIn, nesting_joined]

theorem isAscii_separator : separator.IsAscii :=
  Text.isAscii_of_all (by decide)

theorem isAscii_colon : (Text.ofString ": ").IsAscii :=
  Text.isAscii_of_all (by decide)

/-- Items that are each written in ASCII characters are so together. -/
theorem isAscii_writeItems : ∀ {js : List Json}, (∀ j ∈ js, j.write.IsAscii) →
    (writeItems js).IsAscii
  | [], _ => Text.isAscii_nil
  | [j], h => h j List.mem_cons_self
  | j :: k :: ks, h => by
    rw [List.forall_mem_cons] at h
    rw [writeItems, Text.isAscii_append, Text.isAscii_append]
    exact ⟨⟨h.1, isAscii_separator⟩, isAscii_writeItems h.2⟩

/-- So are members, if their values are. -/
theorem isAscii_writeMembers : ∀ {members : List (Text × Json)},
    (∀ m ∈ members, m.2.write.IsAscii) → (writeMembers members).IsAscii
  | [], _ => Text.isAscii_nil
  | [(key, j)], h => by
    rw [writeMembers, Text.isAscii_append, Text.isAscii_append]
    exact ⟨⟨isAscii_writeString key, isAscii_colon⟩, h _ List.mem_cons_self⟩
  | (key, j) :: m :: members, h => by
    rw [List.forall_mem_cons] at h
    rw [writeMembers, Text.isAscii_append, Text.isAscii_append, Text.isAscii_append,
      Text.isAscii_append]
    exact ⟨⟨⟨⟨isAscii_writeString key, isAscii_colon⟩, h.1⟩, isAscii_separator⟩,
      isAscii_writeMembers h.2⟩

/-- An array is written in ASCII if its items are. -/
theorem isAscii_array {js : List Json} (h : ∀ j ∈ js, j.write.IsAscii) :
    (array js).write.IsAscii := by
  rw [write, Text.isAscii_append, Text.isAscii_cons]
  exact ⟨⟨by decide, isAscii_writeItems h⟩, Text.isAscii_of_all (by decide)⟩

/-- An object is written in ASCII if the values of its members are. -/
theorem isAscii_object {members : List (Text × Json)} (h : ∀ m ∈ members, m.2.write.IsAscii) :
    (object members).write.IsAscii := by
  rw [write, Text.isAscii_append, Text.isAscii_cons]
  exact ⟨⟨by decide, isAscii_writeMembers h⟩, Text.isAscii_of_all (by decide)⟩

mutual

/-- A value without numbers is written in ASCII. -/
theorem isAscii_write : ∀ j : Json, j.hasNoNumber → j.write.IsAscii
  | null, _ => Text.isAscii_of_all (by decide)
  | bool true, _ => Text.isAscii_of_all (by decide)
  | bool false, _ => Text.isAscii_of_all (by decide)
  | number _, h => by cases h
  | string t, _ => isAscii_writeString t
  | array items, h => isAscii_array (isAscii_of_mem items h)
  | object members, h => isAscii_object (isAscii_of_mem_members members h)

theorem isAscii_of_mem : ∀ js : List Json, haveNoNumber js → ∀ j ∈ js, j.write.IsAscii
  | [], _ => by simp
  | j :: js, h =>
    have ⟨hj, hjs⟩ := Bool.and_eq_true_iff.1 h
    List.forall_mem_cons.2 ⟨isAscii_write j hj, isAscii_of_mem js hjs⟩

theorem isAscii_of_mem_members : ∀ members : List (Text × Json), membersHaveNoNumber members →
    ∀ m ∈ members, m.2.write.IsAscii
  | [], _ => by simp
  | (_, j) :: members, h =>
    have ⟨hj, hmembers⟩ := Bool.and_eq_true_iff.1 h
    List.forall_mem_cons.2 ⟨isAscii_write j hj, isAscii_of_mem_members members hmembers⟩

end

end Json

end JavaText
