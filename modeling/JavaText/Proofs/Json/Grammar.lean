import JavaText.Proofs.Json.NumberGrammar
import JavaText.Proofs.Json.StringGrammar

/-!
# The grammar of documents

What a document is, as rules over the text alone. `Json.Value` says which texts are values and which
values they are, and `Json.Element` is a value with blanks around it. A document is one element.

The reader goes by these rules: a document is read as the value that the rules give, unless the
terms refuse the value (`Json.Element.parse`). `Json.Terms.check` says whether they do, going
through the value in the order of the text. Wherever the rules let a value end, what follows cannot
be part of a number, so a number there is read as a whole. The fuel of the reader is measured
against the length of the text.
-/

namespace JavaText

namespace Json

/-! ## The rules -/

/-- A run of blanks. -/
def AllBlank (w : Text) : Prop :=
  ∀ c ∈ w, isBlank c = true

mutual

/-- A text that is a value. -/
inductive Value : Text → Json → Prop
  | word {w : Text} {j : Json} (h : (w, j) ∈ words) : Value w j
  | number {t : Text} (h : IsNumber t) : Value t (.number t)
  | string {t v : Text} (h : Spells t v) : Value (quote :: (t ++ [quote])) (.string v)
  | emptyArray {w : Text} (hw : AllBlank w) : Value (openArray :: (w ++ [closeArray])) (.array [])
  | array {t : Text} {items : List Json} (h : Elements t items) :
      Value (openArray :: (t ++ [closeArray])) (.array items)
  | emptyObject {w : Text} (hw : AllBlank w) :
      Value (openObject :: (w ++ [closeObject])) (.object [])
  | object {t : Text} {members : List (Text × Json)} (h : Members t members) :
      Value (openObject :: (t ++ [closeObject])) (.object members)

/-- A text that is a value with blanks around it. -/
inductive Element : Text → Json → Prop
  | padded {w t w' : Text} {j : Json} (hw : AllBlank w) (h : Value t j) (hw' : AllBlank w') :
      Element (w ++ (t ++ w')) j

/-- A text that is one or more elements with commas between them. -/
inductive Elements : Text → List Json → Prop
  | one {t : Text} {j : Json} (h : Element t j) : Elements t [j]
  | more {t u : Text} {j : Json} {js : List Json} (h : Element t j) (hs : Elements u js) :
      Elements (t ++ .ofChar ',' :: u) (j :: js)

/-- A text that is a key, a colon and an element. -/
inductive Member : Text → Text × Json → Prop
  | pair {w k key w' t : Text} {j : Json} (hw : AllBlank w) (hkey : Spells k key)
      (hw' : AllBlank w') (h : Element t j) :
      Member (w ++ quote :: (k ++ quote :: (w' ++ .ofChar ':' :: t))) (key, j)

/-- A text that is one or more members with commas between them. -/
inductive Members : Text → List (Text × Json) → Prop
  | one {t : Text} {m : Text × Json} (h : Member t m) : Members t [m]
  | more {t u : Text} {m : Text × Json} {ms : List (Text × Json)} (h : Member t m)
      (hs : Members u ms) : Members (t ++ .ofChar ',' :: u) (m :: ms)

end

/-! ## Blanks -/

theorem skipBlanks_cons {c : CodePoint} (h : isBlank c = false) (t : Text) :
    skipBlanks (c :: t) = c :: t := by
  simp [skipBlanks, h]

/-- A character that is no blank is met where it is looked for. -/
theorem expect?_cons (c : CodePoint) (h : isBlank c = false) (t : Text) :
    expect? c (c :: t) = some t := by
  simp [expect?, skipBlanks_cons h]

/-- Another one is not met there. -/
theorem expect?_of_ne {c d : CodePoint} (h : isBlank d = false) (hne : d ≠ c) (t : Text) :
    expect? c (d :: t) = none := by
  simp [expect?, skipBlanks_cons h, hne]

/-- Blanks at the start are skipped, however many they are. -/
theorem skipBlanks_append {w : Text} (hw : AllBlank w) (t : Text) :
    skipBlanks (w ++ t) = skipBlanks t :=
  List.dropWhile_append_of_pos hw

theorem skipBlanks_blanks {w : Text} (hw : AllBlank w) : skipBlanks w = [] := by
  have h := skipBlanks_append hw []
  rwa [List.append_nil] at h

/-- A text is the blanks at its start and the rest. -/
theorem exists_blanks (t : Text) : ∃ w, AllBlank w ∧ t = w ++ skipBlanks t :=
  ⟨t.takeWhile isBlank, fun _ => List.all_eq_true.1 List.all_takeWhile _,
    List.takeWhile_append_dropWhile.symm⟩

/-- Where nothing is left there were only blanks. -/
theorem allBlank_of_skipBlanks {t : Text} (h : skipBlanks t = []) : AllBlank t := by
  obtain ⟨w, hw, ht⟩ := exists_blanks t
  rw [h, List.append_nil] at ht
  rwa [ht]

theorem expect?_append {w : Text} (hw : AllBlank w) (c : CodePoint) (t : Text) :
    expect? c (w ++ t) = expect? c t := by
  rw [expect?, skipBlanks_append hw, expect?]

/-- A character that is met stands after blanks. -/
theorem expect?_eq_some {c : CodePoint} {t rest : Text} (h : expect? c t = some rest) :
    ∃ w, AllBlank w ∧ t = w ++ c :: rest := by
  obtain ⟨w, hw, ht⟩ := exists_blanks t
  refine ⟨w, hw, ?_⟩
  rw [expect?] at h
  split at h
  · next d u hskip =>
    split at h
    · next hd =>
      cases h
      rw [← hd, ← hskip]
      exact ht
    · cases h
  · cases h

/-! ## Blanks around values -/

theorem allBlank_append {w w' : Text} (hw : AllBlank w) (hw' : AllBlank w') :
    AllBlank (w ++ w') := by
  intro c hc
  rcases List.mem_append.1 hc with hc | hc
  · exact hw c hc
  · exact hw' c hc

theorem allBlank_space : AllBlank [.ofChar ' '] :=
  List.forall_mem_singleton.2 (by decide)

/-- Blanks before an element belong to it. -/
theorem Element.blanks_append {w t : Text} {j : Json} (hw : AllBlank w) (h : Element t j) :
    Element (w ++ t) j := by
  obtain ⟨hw', hv, hw''⟩ := h
  rw [← List.append_assoc]
  exact .padded (allBlank_append hw hw') hv hw''

/-- Blanks before elements belong to the first of them. -/
theorem Elements.blanks_append {w t : Text} {js : List Json} (hw : AllBlank w)
    (h : Elements t js) : Elements (w ++ t) js := by
  cases h with
  | one h => exact .one (h.blanks_append hw)
  | more h hs =>
    rw [← List.append_assoc]
    exact .more (h.blanks_append hw) hs

/-- Blanks before a member belong to it. -/
theorem Member.blanks_append {w t : Text} {m : Text × Json} (hw : AllBlank w) (h : Member t m) :
    Member (w ++ t) m := by
  obtain ⟨hw₁, hkey, hw₂, h⟩ := h
  rw [← List.append_assoc]
  exact .pair (allBlank_append hw hw₁) hkey hw₂ h

theorem Members.blanks_append {w t : Text} {ms : List (Text × Json)} (hw : AllBlank w)
    (h : Members t ms) : Members (w ++ t) ms := by
  cases h with
  | one h => exact .one (h.blanks_append hw)
  | more h hs =>
    rw [← List.append_assoc]
    exact .more (h.blanks_append hw) hs

/-- A value with blanks after it is an element. -/
theorem Value.element {t w : Text} {j : Json} (h : Value t j) (hw : AllBlank w) :
    Element (t ++ w) j :=
  .padded (w := []) (by simp [AllBlank]) h hw

/-- A value is an element with no blanks around it. -/
theorem Value.toElement {t : Text} {j : Json} (h : Value t j) : Element t j := by
  have helement := h.element (w := []) (by simp [AllBlank])
  rwa [List.append_nil] at helement

/-- A key and a value as they are written are a member. -/
theorem member_spaced {k key t : Text} {j : Json} (hkey : Spells k key) (h : Value t j) :
    Member (quote :: (k ++ quote :: .ofChar ':' :: .ofChar ' ' :: t)) (key, j) :=
  @Member.pair [] _ _ [] _ _ (by simp [AllBlank]) hkey (by simp [AllBlank])
    (h.toElement.blanks_append allBlank_space)

/-! ## Where numbers end -/

/-- Blanks before what ends a number end it as well. -/
theorem endsNumber_blanks {w rest : Text} (hw : AllBlank w) (h : EndsNumber rest) :
    EndsNumber (w ++ rest) := by
  cases w with
  | nil => exact h
  | cons c w =>
    intro d hd
    obtain rfl : c = d := Option.some.inj hd
    have hblank := hw c (by simp)
    simp only [isBlank, Bool.or_eq_true, beq_iff_eq] at hblank
    refine ⟨?_, by omega, by omega, by omega⟩
    simp only [CodePoint.isAsciiDigit, Bool.and_eq_false_iff, decide_eq_false_iff_not]
    omega

/-- What stands behind an item ends a number. -/
theorem endsNumber_cons {c : CodePoint}
    (hc : c = .ofChar ',' ∨ c = closeArray ∨ c = closeObject) (rest : Text) :
    EndsNumber (c :: rest) := by
  intro d hd
  obtain rfl : c = d := Option.some.inj hd
  rcases hc with rfl | rfl | rfl <;> decide

/-! ## Words -/

theorem stripStart?_eq_some : ∀ {w t rest : Text}, Text.stripStart? w t = some rest → t = w ++ rest
  | [], t, rest, h => Option.some.inj h
  | c :: w, [], rest, h => by cases h
  | c :: w, d :: t, rest, h => by
    rw [Text.stripStart?] at h
    split at h
    · next hcd => rw [hcd, stripStart?_eq_some h, List.cons_append]
    · cases h

/-- A word that is read is one of the words, written out. -/
theorem readWord?_eq_some {t rest : Text} {j : Json} (h : readWord? t = some (j, rest)) :
    ∃ w, (w, j) ∈ words ∧ t = w ++ rest := by
  obtain ⟨⟨w, j'⟩, hmem, hw⟩ := List.exists_of_findSome?_eq_some h
  obtain ⟨rest', hstrip, heq⟩ := Option.map_eq_some_iff.1 hw
  cases heq
  exact ⟨w, hmem, stripStart?_eq_some hstrip⟩

/-- No word starts as a number does. -/
theorem readWord?_of_isNumber {t : Text} (h : IsNumber t) (rest : Text) :
    readWord? (t ++ rest) = none := by
  obtain ⟨hsign, hwhole, -, -, -⟩ := h
  obtain ⟨c, u, rfl, hc⟩ := hwhole.eq_cons
  rw [isAsciiDigit_iff] at hc
  have hne : ∀ d : Char, ¬(0x30 ≤ d.toNat ∧ d.toNat ≤ 0x39) → ¬CodePoint.ofChar d = c := by
    rintro d hd rfl
    exact hd hc
  rcases hsign with rfl | rfl
  · simp [readWord?, words, Text.ofString, Text.stripStart?, hne]
  · have hminus : ∀ d : Char, d ≠ '-' → ¬CodePoint.ofChar d = CodePoint.ofChar '-' := by
      intro d hd heq
      exact hd (Char.toNat_inj.1 (Fin.mk.inj heq))
    simp [readWord?, words, Text.ofString, Text.stripStart?, hne, hminus]

/-! ## What follows the rules is read -/

/-- What stands at the start of a value. -/
theorem Value.eq_cons {t : Text} {j : Json} (h : Value t j) :
    ∃ c u, t = c :: u ∧ isBlank c = false ∧ c ≠ closeArray ∧ c ≠ closeObject := by
  cases h with
  | word h =>
    simp only [words, List.mem_cons, List.not_mem_nil, or_false, Prod.mk.injEq] at h
    rcases h with ⟨rfl, -⟩ | ⟨rfl, -⟩ | ⟨rfl, -⟩ | ⟨rfl, -⟩ | ⟨rfl, -⟩ | ⟨rfl, -⟩ <;>
      exact ⟨_, _, rfl, by decide⟩
  | number h =>
    obtain ⟨hsign, hwhole, -, -, -⟩ := h
    obtain ⟨c, u, rfl, hc⟩ := hwhole.eq_cons
    rcases hsign with rfl | rfl
    · refine ⟨c, _, rfl, ?_, ?_, ?_⟩
      · rw [isAsciiDigit_iff] at hc
        simp only [isBlank, Bool.or_eq_false_iff, beq_eq_false_iff_ne]
        omega
      · rintro rfl
        revert hc
        decide
      · rintro rfl
        revert hc
        decide
    · exact ⟨_, _, rfl, by decide⟩
  | string _ => exact ⟨_, _, rfl, by decide⟩
  | emptyArray _ => exact ⟨_, _, rfl, by decide⟩
  | array _ => exact ⟨_, _, rfl, by decide⟩
  | emptyObject _ => exact ⟨_, _, rfl, by decide⟩
  | object _ => exact ⟨_, _, rfl, by decide⟩

/-- A value starts with no blank. -/
theorem Value.skipBlanks_append {t : Text} {j : Json} (h : Value t j) (rest : Text) :
    skipBlanks (t ++ rest) = t ++ rest := by
  obtain ⟨c, u, rfl, hblank, -⟩ := h.eq_cons
  exact skipBlanks_cons hblank _

/-- The first character of an element is neither the end of an array nor the end of an object. -/
theorem Element.expect?_close {t : Text} {j : Json} (h : Element t j) {c : CodePoint}
    (hc : c = closeArray ∨ c = closeObject) (rest : Text) : expect? c (t ++ rest) = none := by
  obtain ⟨hw, hv, -⟩ := h
  obtain ⟨d, u, rfl, hblank, hne, hne'⟩ := hv.eq_cons
  rw [List.append_assoc, expect?_append hw]
  rcases hc with rfl | rfl
  · exact expect?_of_ne hblank hne _
  · exact expect?_of_ne hblank hne' _

/-- No elements start with the end of an array. -/
theorem Elements.expect?_close {t : Text} {js : List Json} (h : Elements t js) (rest : Text) :
    expect? closeArray (t ++ rest) = none := by
  cases h with
  | one h => exact h.expect?_close (Or.inl rfl) rest
  | more h _ =>
    rw [List.append_assoc]
    exact h.expect?_close (Or.inl rfl) _

/-- No members start with the end of an object. -/
theorem Members.expect?_close {t : Text} {ms : List (Text × Json)} (h : Members t ms)
    (rest : Text) : expect? closeObject (t ++ rest) = none := by
  have hmember : ∀ {t : Text} {m : Text × Json} (rest : Text), Member t m →
      expect? closeObject (t ++ rest) = none := by
    rintro t m rest ⟨hw, -, -, -⟩
    rw [List.append_assoc, expect?_append hw]
    exact expect?_of_ne (by decide) (by decide) _
  cases h with
  | one h => exact hmember rest h
  | more h _ =>
    rw [List.append_assoc]
    exact hmember _ h

theorem expect?_blanks {w : Text} (hw : AllBlank w) {c : CodePoint} (hc : isBlank c = false)
    (t : Text) : expect? c (w ++ c :: t) = some t := by
  rw [expect?_append hw, expect?_cons c hc]

theorem expect?_blanks_of_ne {w : Text} (hw : AllBlank w) {c d : CodePoint}
    (hd : isBlank d = false) (hne : d ≠ c) (t : Text) : expect? c (w ++ d :: t) = none := by
  rw [expect?_append hw, expect?_of_ne hd hne]

/-! ## What the terms say -/

namespace Terms

mutual

/-- What the terms say of a value inside so many arrays and objects: the first flaw in the order of
the document, if there is one. -/
def check (terms : Terms) : Nat → Json → Except Flaw Unit
  | depth, array items =>
    if terms.isFull depth then .error .tooDeep else terms.checkItems (depth + 1) items
  | depth, object members =>
    if terms.isFull depth then .error .tooDeep
    else (terms.checkMembers (depth + 1) members).bind fun _ =>
      if terms.accepts members then .ok () else .error .invalid
  | _, null => .ok ()
  | _, bool _ => .ok ()
  | _, number _ => .ok ()
  | _, string _ => .ok ()

/-- What the terms say of several values, one after another. -/
def checkItems (terms : Terms) : Nat → List Json → Except Flaw Unit
  | _, [] => .ok ()
  | depth, j :: js => (terms.check depth j).bind fun _ => terms.checkItems depth js

/-- What the terms say of the values of members, one after another. -/
def checkMembers (terms : Terms) : Nat → List (Text × Json) → Except Flaw Unit
  | _, [] => .ok ()
  | depth, (_, j) :: members =>
    (terms.check depth j).bind fun _ => terms.checkMembers depth members

end

end Terms

/-! ## Documents are read -/

variable {terms : Terms}

/-- A value that is no string, array or object is a word or else a number. -/
theorem readValue_other {n depth : Nat} {c : CodePoint} (hstring : c ≠ quote)
    (harray : c ≠ openArray) (hobject : c ≠ openObject) (t : Text) :
    readValue terms (n + 1) depth (c :: t) =
      valid ((readWord? (c :: t)).or (readNumber? (c :: t))) := by
  rw [readValue]
  split
  · next h => exact absurd (Fin.ext h) hstring
  · next h => exact absurd (Fin.ext h) harray
  · next h => exact absurd (Fin.ext h) hobject
  · rfl

theorem readValue_string (n depth : Nat) (t : Text) :
    readValue terms (n + 1) depth (quote :: t) =
      valid ((readString? t).map fun (s, rest) => (.string s, rest)) := rfl

/-- What follows an opening bracket is read as items, unless it closes the array. -/
theorem readValue_array {n depth : Nat} {t : Text} (hend : expect? closeArray t = none) :
    readValue terms (n + 1) depth (openArray :: t) =
      if terms.isFull depth then .error .tooDeep
      else (readItems terms n (depth + 1) (skipBlanks t)).map fun (items, rest) =>
        (.array items, rest) := by
  have hval : openArray.val = 0x5b := by decide
  simp only [readValue, hval, hend]

/-- An array that is closed at once counts as one level. -/
theorem readValue_emptyArray {n depth : Nat} {t rest : Text}
    (hend : expect? closeArray t = some rest) :
    readValue terms (n + 1) depth (openArray :: t) =
      if terms.isFull depth then .error .tooDeep else .ok (.array [], rest) := by
  have hval : openArray.val = 0x5b := by decide
  simp only [readValue, hval, hend]

/-- What follows an opening brace is read as members, unless it closes the object. -/
theorem readValue_object {n depth : Nat} {t : Text} (hend : expect? closeObject t = none) :
    readValue terms (n + 1) depth (openObject :: t) =
      if terms.isFull depth then .error .tooDeep
      else (readMembers terms n (depth + 1) (skipBlanks t)).bind fun (members, rest) =>
        terms.close members rest := by
  have hval : openObject.val = 0x7b := by decide
  simp only [readValue, hval, hend]

/-- An object that is closed at once counts as one level. -/
theorem readValue_emptyObject {n depth : Nat} {t rest : Text}
    (hend : expect? closeObject t = some rest) :
    readValue terms (n + 1) depth (openObject :: t) =
      if terms.isFull depth then .error .tooDeep else terms.close [] rest := by
  have hval : openObject.val = 0x7b := by decide
  simp only [readValue, hval, hend]

/-- A number is read up to where it ends. -/
theorem IsNumber.readValue {t : Text} (h : IsNumber t) {n depth : Nat} {rest : Text}
    (hrest : EndsNumber rest) :
    Json.readValue terms (n + 1) depth (t ++ rest) = .ok (.number t, rest) := by
  have hword := readWord?_of_isNumber h rest
  have hnumber := h.readNumber? hrest
  obtain ⟨c, u, hcu, hc⟩ : ∃ c u, t = c :: u ∧ (c = .ofChar '-' ∨ c.isAsciiDigit = true) := by
    obtain ⟨hsign, hwhole, -, -, -⟩ := h
    obtain ⟨c, u, rfl, hc⟩ := hwhole.eq_cons
    rcases hsign with rfl | rfl
    · exact ⟨c, _, rfl, Or.inr hc⟩
    · exact ⟨_, _, rfl, Or.inl rfl⟩
  have hne : ∀ d : CodePoint, d ≠ .ofChar '-' → d.isAsciiDigit = false → c ≠ d := by
    rintro d hd hd' rfl
    rcases hc with hc | hc
    · exact hd hc
    · rw [hd'] at hc
      cases hc
  rw [hcu, List.cons_append] at hword hnumber ⊢
  rw [readValue_other (hne _ (by decide) (by decide)) (hne _ (by decide) (by decide))
    (hne _ (by decide) (by decide)), hword, hnumber]
  rfl

variable (terms) in
mutual

/-- A value is read whatever follows it, unless that could be part of a number or the terms refuse
the value. -/
theorem Value.read : ∀ {t : Text} {j : Json}, Value t j → ∀ (fuel depth : Nat) (rest : Text),
    2 * t.length ≤ fuel → EndsNumber rest →
      readValue terms fuel depth (t ++ rest) = (terms.check depth j).map fun _ => (j, rest)
  | t, j, h, 0, _, rest, hfuel, _ => by
    obtain ⟨c, u, rfl, -⟩ := h.eq_cons
    rw [List.length_cons] at hfuel
    omega
  | _, _, .word h, n + 1, _, rest, _, _ => by
    simp only [words, List.mem_cons, List.not_mem_nil, or_false, Prod.mk.injEq] at h
    rcases h with ⟨rfl, rfl⟩ | ⟨rfl, rfl⟩ | ⟨rfl, rfl⟩ | ⟨rfl, rfl⟩ | ⟨rfl, rfl⟩ | ⟨rfl, rfl⟩ <;>
      rfl
  | _, _, .number h, n + 1, _, rest, _, hrest => h.readValue hrest
  | _, _, @Value.string t v h, n + 1, depth, rest, _, _ => by
    rw [List.cons_append, List.append_assoc, List.singleton_append, readValue_string,
      h.readString?]
    rfl
  | _, _, .emptyArray hw, n + 1, depth, rest, _, _ => by
    rw [List.cons_append, List.append_assoc, List.singleton_append,
      readValue_emptyArray (expect?_blanks hw (c := closeArray) (by decide) rest), Terms.check]
    split <;> rfl
  | _, _, @Value.array t items h, n + 1, depth, rest, hfuel, _ => by
    rw [List.length_cons, List.length_append, List.length_singleton] at hfuel
    have hitems := Elements.read h n (depth + 1) rest (by omega)
    rw [List.cons_append, List.append_assoc, List.singleton_append,
      readValue_array (h.expect?_close _), hitems, Terms.check]
    split
    · rfl
    · cases terms.checkItems (depth + 1) items <;> rfl
  | _, _, .emptyObject hw, n + 1, depth, rest, _, _ => by
    rw [List.cons_append, List.append_assoc, List.singleton_append,
      readValue_emptyObject (expect?_blanks hw (c := closeObject) (by decide) rest), Terms.check,
      Terms.checkMembers, Terms.close]
    split
    · rfl
    · dsimp only [Except.bind]
      split <;> rfl
  | _, _, @Value.object t members h, n + 1, depth, rest, hfuel, _ => by
    rw [List.length_cons, List.length_append, List.length_singleton] at hfuel
    have hmembers := Members.read h n (depth + 1) rest (by omega)
    rw [List.cons_append, List.append_assoc, List.singleton_append,
      readValue_object (h.expect?_close _), hmembers, Terms.check]
    split
    · rfl
    · cases terms.checkMembers (depth + 1) members with
      | error flaw => rfl
      | ok _ =>
        dsimp only [Except.map, Except.bind, Terms.close]
        split <;> rfl

/-- The value of an element is read, and the blanks after it are left. -/
theorem Element.read : ∀ {t : Text} {j : Json}, Element t j → ∀ (fuel depth : Nat) (rest : Text),
    2 * t.length ≤ fuel → EndsNumber rest → ∃ w, AllBlank w ∧
      readValue terms fuel depth (skipBlanks (t ++ rest)) =
        (terms.check depth j).map fun _ => (j, w ++ rest)
  | _, _, @Element.padded w t w' j hw h hw', fuel, depth, rest, hfuel, hrest => by
    rw [List.length_append, List.length_append] at hfuel
    have hread := Value.read h fuel depth (w' ++ rest) (by omega) (endsNumber_blanks hw' hrest)
    refine ⟨w', hw', ?_⟩
    rw [List.append_assoc, skipBlanks_append hw, List.append_assoc, h.skipBlanks_append, hread]

/-- Elements are read as the items of an array, if the terms accept them. -/
theorem Elements.read : ∀ {t : Text} {js : List Json}, Elements t js →
    ∀ (fuel depth : Nat) (rest : Text), 2 * t.length < fuel →
      readItems terms fuel depth (skipBlanks (t ++ closeArray :: rest)) =
        (terms.checkItems depth js).map fun _ => (js, rest)
  | _, _, _, 0, _, _, hfuel => by omega
  | _, _, @Elements.one t j h, n + 1, depth, rest, hfuel => by
    obtain ⟨w, hw, hread⟩ := Element.read h n depth (closeArray :: rest) (by omega)
      (endsNumber_cons (by simp) rest)
    rw [readItems, hread, Terms.checkItems, Terms.checkItems]
    cases terms.check depth j with
    | error flaw => rfl
    | ok _ =>
      simp only [Except.map, Except.bind,
        expect?_blanks_of_ne hw (c := .ofChar ',') (d := closeArray) (by decide) (by decide),
        expect?_blanks hw (c := closeArray) (by decide), Option.map_some, valid]
  | _, _, @Elements.more t u j js h hs, n + 1, depth, rest, hfuel => by
    rw [List.length_append, List.length_cons] at hfuel
    obtain ⟨w, hw, hread⟩ := Element.read h n depth (.ofChar ',' :: (u ++ closeArray :: rest))
      (by omega) (endsNumber_cons (by simp) _)
    have hrest := Elements.read hs n depth rest (by omega)
    rw [List.append_assoc, List.cons_append, readItems, hread, Terms.checkItems]
    cases terms.check depth j with
    | error flaw => rfl
    | ok _ =>
      simp only [Except.map, Except.bind, expect?_blanks hw (c := .ofChar ',') (by decide), hrest]
      cases terms.checkItems depth js <;> rfl

/-- Members are read as those of an object, if the terms accept them. -/
theorem Members.read : ∀ {t : Text} {ms : List (Text × Json)}, Members t ms →
    ∀ (fuel depth : Nat) (rest : Text), 2 * t.length < fuel →
      readMembers terms fuel depth (skipBlanks (t ++ closeObject :: rest)) =
        (terms.checkMembers depth ms).map fun _ => (ms, rest)
  | _, _, _, 0, _, _, hfuel => by omega
  | _, _, .one (@Member.pair w k key w' t j hw hkey hw' h), n + 1, depth, rest, hfuel => by
    simp only [List.length_append, List.length_cons] at hfuel
    obtain ⟨w'', hw'', hread⟩ := Element.read h n depth (closeObject :: rest) (by omega)
      (endsNumber_cons (by simp) rest)
    have hstring := hkey.readString? (w' ++ .ofChar ':' :: (t ++ closeObject :: rest))
    simp only [List.append_assoc, List.cons_append, skipBlanks_append hw,
      skipBlanks_cons (c := quote) (by decide), readMembers, if_true, hstring,
      expect?_blanks hw' (c := .ofChar ':') (by decide), hread, Terms.checkMembers]
    cases terms.check depth j with
    | error flaw => rfl
    | ok _ =>
      simp only [Except.map, Except.bind,
        expect?_blanks_of_ne hw'' (c := .ofChar ',') (d := closeObject) (by decide) (by decide),
        expect?_blanks hw'' (c := closeObject) (by decide), Option.map_some, valid]
  | _, _, @Members.more _ u _ ms (@Member.pair w k key w' t j hw hkey hw' h) hs, n + 1, depth,
      rest, hfuel => by
    simp only [List.length_append, List.length_cons] at hfuel
    obtain ⟨w'', hw'', hread⟩ := Element.read h n depth
      (.ofChar ',' :: (u ++ closeObject :: rest)) (by omega) (endsNumber_cons (by simp) _)
    have hstring := hkey.readString?
      (w' ++ .ofChar ':' :: (t ++ .ofChar ',' :: (u ++ closeObject :: rest)))
    have hrest := Members.read hs n depth rest (by omega)
    simp only [List.append_assoc, List.cons_append, skipBlanks_append hw,
      skipBlanks_cons (c := quote) (by decide), readMembers, if_true, hstring,
      expect?_blanks hw' (c := .ofChar ':') (by decide), hread, Terms.checkMembers]
    cases terms.check depth j with
    | error flaw => rfl
    | ok _ =>
      simp only [Except.map, Except.bind, expect?_blanks hw'' (c := .ofChar ',') (by decide), hrest]
      cases terms.checkMembers depth ms <;> rfl

end

/-- A document is read, unless the terms refuse its value. -/
theorem Element.parse {t : Text} {j : Json} (h : Element t j) :
    Json.parse terms t = (terms.check 0 j).map fun _ => j := by
  obtain ⟨w, hw, hread⟩ := h.read terms (2 * t.length + 2) 0 [] (by omega)
    (by simp [EndsNumber])
  rw [List.append_nil, List.append_nil] at hread
  rw [Json.parse, hread]
  cases terms.check 0 j with
  | error flaw => rfl
  | ok _ => simp only [Except.map, skipBlanks_blanks hw, if_true]

end Json

end JavaText
