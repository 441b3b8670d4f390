import JavaText.Proofs.Json.Grammar

/-!
# What the reader of documents accepts and where it gives up

The reader takes a text for a document just if the rules do and the terms accept the value that the
rules give (`Json.parse_eq_ok_iff`). It gives up because of the limit just if the text starts so
that, after some complete values that the terms accept, one array or object too many is opened
(`Json.parse_eq_tooDeep_iff`); `Json.Terms.Exceeds` says what such a start looks like, and nothing
that comes after it matters. All other texts are no documents to the reader.
-/

namespace JavaText

namespace Json

variable {terms : Terms} {depth : Nat}

/-! ## Starts that go too deep -/

namespace Terms

mutual

/-- The start of a value inside so many arrays and objects, up to the bracket that opens one too
many. -/
inductive Exceeds (terms : Terms) : Nat → Text → Prop
  | here {depth : Nat} {c : CodePoint} (hc : c = openArray ∨ c = openObject)
      (hfull : terms.isFull depth = true) : Exceeds terms depth [c]
  | array {depth : Nat} {t : Text} (hroom : terms.isFull depth = false)
      (h : ExceedsItems terms (depth + 1) t) : Exceeds terms depth (openArray :: t)
  | object {depth : Nat} {t : Text} (hroom : terms.isFull depth = false)
      (h : ExceedsMembers terms (depth + 1) t) : Exceeds terms depth (openObject :: t)

/-- The start of the items of an array: accepted elements, each with a comma, and the start of a
value. -/
inductive ExceedsItems (terms : Terms) : Nat → Text → Prop
  | here {depth : Nat} {w t : Text} (hw : AllBlank w) (h : Exceeds terms depth t) :
      ExceedsItems terms depth (w ++ t)
  | later {depth : Nat} {t u : Text} {j : Json} (h : Element t j)
      (hcheck : terms.check depth j = .ok ()) (hs : ExceedsItems terms depth u) :
      ExceedsItems terms depth (t ++ .ofChar ',' :: u)

/-- The start of the members of an object: accepted members, each with a comma, and a key with the
start of a value. -/
inductive ExceedsMembers (terms : Terms) : Nat → Text → Prop
  | here {depth : Nat} {w k key w₁ w₂ t : Text} (hw : AllBlank w) (hkey : Spells k key)
      (hw₁ : AllBlank w₁) (hw₂ : AllBlank w₂) (h : Exceeds terms depth t) :
      ExceedsMembers terms depth (w ++ quote :: (k ++ quote :: (w₁ ++ .ofChar ':' :: (w₂ ++ t))))
  | later {depth : Nat} {t u : Text} {m : Text × Json} (h : Member t m)
      (hcheck : terms.check depth m.2 = .ok ()) (hs : ExceedsMembers terms depth u) :
      ExceedsMembers terms depth (t ++ .ofChar ',' :: u)

end

/-- What goes too deep starts with a bracket. -/
theorem Exceeds.eq_cons {t : Text} (h : terms.Exceeds depth t) :
    ∃ c u, t = c :: u ∧ (c = openArray ∨ c = openObject) := by
  cases h with
  | here hc _ => exact ⟨_, [], rfl, hc⟩
  | array _ _ => exact ⟨_, _, rfl, Or.inl rfl⟩
  | object _ _ => exact ⟨_, _, rfl, Or.inr rfl⟩

/-- What goes too deep starts with no blank. -/
theorem Exceeds.skipBlanks_append {t : Text} (h : terms.Exceeds depth t) (rest : Text) :
    skipBlanks (t ++ rest) = t ++ rest := by
  obtain ⟨c, u, rfl, rfl | rfl⟩ := h.eq_cons
  · exact skipBlanks_cons (by decide) _
  · exact skipBlanks_cons (by decide) _

theorem ExceedsItems.expect?_close {t : Text} (h : terms.ExceedsItems depth t) (rest : Text) :
    expect? closeArray (t ++ rest) = none := by
  cases h with
  | here hw h =>
    obtain ⟨c, u, rfl, rfl | rfl⟩ := h.eq_cons
    · rw [List.append_assoc]
      exact expect?_blanks_of_ne hw (by decide) (by decide) _
    · rw [List.append_assoc]
      exact expect?_blanks_of_ne hw (by decide) (by decide) _
  | later h _ _ =>
    rw [List.append_assoc]
    exact h.expect?_close (Or.inl rfl) _

theorem ExceedsMembers.expect?_close {t : Text} (h : terms.ExceedsMembers depth t) (rest : Text) :
    expect? closeObject (t ++ rest) = none := by
  cases h with
  | here hw _ _ _ _ =>
    rw [List.append_assoc]
    exact expect?_blanks_of_ne hw (by decide) (by decide) _
  | later h _ _ =>
    rw [List.append_assoc]
    exact (Members.one h).expect?_close _

mutual

/-- Such a start is given up whatever follows it. -/
theorem Exceeds.read : ∀ {depth : Nat} {t : Text}, terms.Exceeds depth t →
    ∀ (fuel : Nat) (rest : Text), 2 * t.length ≤ fuel →
      readValue terms fuel depth (t ++ rest) = .error .tooDeep
  | _, t, h, 0, _, hfuel => by
    obtain ⟨c, u, rfl, -⟩ := h.eq_cons
    rw [List.length_cons] at hfuel
    omega
  | _, _, .here (.inl rfl) hfull, _ + 1, _, _ => if_pos hfull
  | _, _, .here (.inr rfl) hfull, _ + 1, _, _ => if_pos hfull
  | _, _, .array hroom h, n + 1, rest, hfuel => by
    rw [List.length_cons] at hfuel
    rw [List.cons_append, readValue_array (h.expect?_close rest), hroom,
      ExceedsItems.read h n rest (by omega)]
    rfl
  | _, _, .object hroom h, n + 1, rest, hfuel => by
    rw [List.length_cons] at hfuel
    rw [List.cons_append, readValue_object (h.expect?_close rest), hroom,
      ExceedsMembers.read h n rest (by omega)]
    rfl

/-- Items that go too deep are not read, whatever follows. -/
theorem ExceedsItems.read : ∀ {depth : Nat} {t : Text}, terms.ExceedsItems depth t →
    ∀ (fuel : Nat) (rest : Text), 2 * t.length < fuel →
      readItems terms fuel depth (skipBlanks (t ++ rest)) = .error .tooDeep
  | _, _, _, 0, _, hfuel => by omega
  | _, _, .here hw h, n + 1, rest, hfuel => by
    rw [List.length_append] at hfuel
    rw [List.append_assoc, skipBlanks_append hw, h.skipBlanks_append, readItems,
      Exceeds.read h n rest (by omega)]
  | depth, _, @ExceedsItems.later _ _ t u j h hcheck hs, n + 1, rest, hfuel => by
    rw [List.length_append, List.length_cons] at hfuel
    obtain ⟨w, hw, hread⟩ := h.read terms n depth (.ofChar ',' :: (u ++ rest)) (by omega)
      (endsNumber_cons (by simp) _)
    have hrest := ExceedsItems.read hs n rest (by omega)
    rw [List.append_assoc, List.cons_append, readItems, hread, hcheck]
    simp only [Except.map, expect?_blanks hw (c := .ofChar ',') (by decide), hrest]

/-- Members that go too deep are not read, whatever follows. -/
theorem ExceedsMembers.read : ∀ {depth : Nat} {t : Text}, terms.ExceedsMembers depth t →
    ∀ (fuel : Nat) (rest : Text), 2 * t.length < fuel →
      readMembers terms fuel depth (skipBlanks (t ++ rest)) = .error .tooDeep
  | _, _, _, 0, _, hfuel => by omega
  | _, _, @ExceedsMembers.here _ _ w k key w₁ w₂ t hw hkey hw₁ hw₂ h, n + 1, rest, hfuel => by
    simp only [List.length_append, List.length_cons] at hfuel
    have hstring := hkey.readString? (w₁ ++ .ofChar ':' :: (w₂ ++ (t ++ rest)))
    simp only [List.append_assoc, List.cons_append, skipBlanks_append hw,
      skipBlanks_cons (c := quote) (by decide), readMembers, if_true, hstring,
      expect?_blanks hw₁ (c := .ofChar ':') (by decide), skipBlanks_append hw₂,
      h.skipBlanks_append, Exceeds.read h n rest (by omega)]
  | depth, _, @ExceedsMembers.later _ _ _ u _ (@Member.pair w k key w₁ t j hw hkey hw₁ h) hcheck hs,
      n + 1, rest, hfuel => by
    simp only [List.length_append, List.length_cons] at hfuel
    obtain ⟨w₂, hw₂, hread⟩ := h.read terms n depth (.ofChar ',' :: (u ++ rest))
      (by omega) (endsNumber_cons (by simp) _)
    have hstring := hkey.readString? (w₁ ++ .ofChar ':' :: (t ++ .ofChar ',' :: (u ++ rest)))
    have hrest := ExceedsMembers.read hs n rest (by omega)
    dsimp only at hcheck
    simp only [List.append_assoc, List.cons_append, skipBlanks_append hw,
      skipBlanks_cons (c := quote) (by decide), readMembers, if_true, hstring,
      expect?_blanks hw₁ (c := .ofChar ':') (by decide), hread, hcheck, Except.map,
      expect?_blanks hw₂ (c := .ofChar ',') (by decide), hrest]

end

/-- A bracket that opens an array or an object. -/
def opens (c : CodePoint) : Bool :=
  c == openArray || c == openObject

mutual

/-- Such a start opens more brackets than the limit leaves room for. -/
theorem Exceeds.exists_lt_countP : ∀ {depth : Nat} {t : Text}, terms.Exceeds depth t →
    ∃ l ∈ terms.limit, l < depth + t.countP opens
  | depth, _, .here (c := c) hc hfull => by
    obtain ⟨l, hl, hle⟩ : ∃ l ∈ terms.limit, l ≤ depth := by
      simpa [isFull, Option.any_eq_true] using hfull
    have hopens : opens c = true := by rcases hc with rfl | rfl <;> rfl
    refine ⟨l, hl, ?_⟩
    rw [List.countP_cons_of_pos hopens]
    omega
  | _, _, .array _ h => by
    obtain ⟨l, hl, hlt⟩ := ExceedsItems.exists_lt_countP h
    refine ⟨l, hl, ?_⟩
    rw [List.countP_cons_of_pos rfl]
    omega
  | _, _, .object _ h => by
    obtain ⟨l, hl, hlt⟩ := ExceedsMembers.exists_lt_countP h
    refine ⟨l, hl, ?_⟩
    rw [List.countP_cons_of_pos rfl]
    omega

/-- Items that go too deep have more opening brackets than the limit allows. -/
theorem ExceedsItems.exists_lt_countP : ∀ {depth : Nat} {t : Text}, terms.ExceedsItems depth t →
    ∃ l ∈ terms.limit, l < depth + t.countP opens
  | _, _, .here _ h => by
    obtain ⟨l, hl, hlt⟩ := Exceeds.exists_lt_countP h
    refine ⟨l, hl, ?_⟩
    rw [List.countP_append]
    omega
  | _, _, .later _ _ hs => by
    obtain ⟨l, hl, hlt⟩ := ExceedsItems.exists_lt_countP hs
    refine ⟨l, hl, ?_⟩
    rw [List.countP_append, List.countP_cons]
    omega

/-- So have members that go too deep. -/
theorem ExceedsMembers.exists_lt_countP : ∀ {depth : Nat} {t : Text},
    terms.ExceedsMembers depth t → ∃ l ∈ terms.limit, l < depth + t.countP opens
  | _, _, .here _ _ _ _ h => by
    obtain ⟨l, hl, hlt⟩ := Exceeds.exists_lt_countP h
    refine ⟨l, hl, ?_⟩
    simp only [List.countP_append, List.countP_cons]
    omega
  | _, _, .later _ _ hs => by
    obtain ⟨l, hl, hlt⟩ := ExceedsMembers.exists_lt_countP hs
    refine ⟨l, hl, ?_⟩
    rw [List.countP_append, List.countP_cons]
    omega

end

end Terms

/-! ## What results say -/

namespace Terms

theorem ExceedsItems.blanks_append {w t : Text} (hw : AllBlank w)
    (h : terms.ExceedsItems depth t) : terms.ExceedsItems depth (w ++ t) := by
  cases h with
  | here hw₁ h =>
    rw [← List.append_assoc]
    exact .here (allBlank_append hw hw₁) h
  | later h hcheck hs =>
    rw [← List.append_assoc]
    exact .later (h.blanks_append hw) hcheck hs

theorem ExceedsMembers.blanks_append {w t : Text} (hw : AllBlank w)
    (h : terms.ExceedsMembers depth t) : terms.ExceedsMembers depth (w ++ t) := by
  cases h with
  | here hw₁ hkey hw₂ hw₃ h =>
    rw [← List.append_assoc]
    exact .here (allBlank_append hw hw₁) hkey hw₂ hw₃ h
  | later h hcheck hs =>
    rw [← List.append_assoc]
    exact .later (h.blanks_append hw) hcheck hs

/-- What a result says about the text that a value was to be read from. -/
def TellsValue (terms : Terms) (depth : Nat) (t : Text) : Except Flaw (Json × Text) → Prop
  | .ok (j, rest) => (∃ v, t = v ++ rest ∧ Value v j) ∧ terms.check depth j = .ok ()
  | .error .tooDeep => ∃ start rest, t = start ++ rest ∧ terms.Exceeds depth start
  | .error .invalid => True

/-- What a result says about the text that items were to be read from. -/
def TellsItems (terms : Terms) (depth : Nat) (t : Text) : Except Flaw (List Json × Text) → Prop
  | .ok (js, rest) =>
    (∃ u, t = u ++ closeArray :: rest ∧ Elements u js) ∧ terms.checkItems depth js = .ok ()
  | .error .tooDeep => ∃ start rest, t = start ++ rest ∧ terms.ExceedsItems depth start
  | .error .invalid => True

/-- What a result says about the text that members were to be read from. -/
def TellsMembers (terms : Terms) (depth : Nat) (t : Text) :
    Except Flaw (List (Text × Json) × Text) → Prop
  | .ok (ms, rest) =>
    (∃ u, t = u ++ closeObject :: rest ∧ Members u ms) ∧ terms.checkMembers depth ms = .ok ()
  | .error .tooDeep => ∃ start rest, t = start ++ rest ∧ terms.ExceedsMembers depth start
  | .error .invalid => True

/-- Blanks in front of items change nothing. -/
theorem TellsItems.of_skipBlanks {t : Text} {result : Except Flaw (List Json × Text)}
    (h : terms.TellsItems depth (skipBlanks t) result) : terms.TellsItems depth t result := by
  obtain ⟨w, hw, ht⟩ := exists_blanks t
  match result, h with
  | .ok (js, rest), ⟨⟨u, hu, hjs⟩, hcheck⟩ =>
    exact ⟨⟨w ++ u, by rw [ht, hu, List.append_assoc], hjs.blanks_append hw⟩, hcheck⟩
  | .error .tooDeep, ⟨start, rest, hstart, h⟩ =>
    exact ⟨w ++ start, rest, by rw [ht, hstart, List.append_assoc], h.blanks_append hw⟩
  | .error .invalid, _ => trivial

/-- Blanks in front of members change nothing. -/
theorem TellsMembers.of_skipBlanks {t : Text} {result : Except Flaw (List (Text × Json) × Text)}
    (h : terms.TellsMembers depth (skipBlanks t) result) : terms.TellsMembers depth t result := by
  obtain ⟨w, hw, ht⟩ := exists_blanks t
  match result, h with
  | .ok (ms, rest), ⟨⟨u, hu, hms⟩, hcheck⟩ =>
    exact ⟨⟨w ++ u, by rw [ht, hu, List.append_assoc], hms.blanks_append hw⟩, hcheck⟩
  | .error .tooDeep, ⟨start, rest, hstart, h⟩ =>
    exact ⟨w ++ start, rest, by rw [ht, hstart, List.append_assoc], h.blanks_append hw⟩
  | .error .invalid, _ => trivial

/-- The results of the three readers say what they should. -/
structure ReadersTell (terms : Terms) (fuel : Nat) : Prop where
  value : ∀ depth t, terms.TellsValue depth t (readValue terms fuel depth t)
  items : ∀ depth t, terms.TellsItems depth t (readItems terms fuel depth t)
  members : ∀ depth t, terms.TellsMembers depth t (readMembers terms fuel depth t)

namespace ReadersTell

variable {n : Nat}

/-- The reader of arrays tells what it should if the readers of its items do. -/
theorem array_succ (h : terms.ReadersTell n) (t : Text) :
    terms.TellsValue depth (openArray :: t) (readValue terms (n + 1) depth (openArray :: t)) := by
  cases hend : expect? closeArray t with
  | some rest =>
    rw [readValue_emptyArray hend]
    split
    · next hfull => exact ⟨[openArray], t, rfl, .here (Or.inl rfl) hfull⟩
    · next hroom =>
      obtain ⟨w, hw, rfl⟩ := expect?_eq_some hend
      refine ⟨⟨openArray :: (w ++ [closeArray]), by simp, .emptyArray hw⟩, ?_⟩
      rw [check, if_neg hroom, checkItems]
  | none =>
    rw [readValue_array hend]
    split
    · next hfull => exact ⟨[openArray], t, rfl, .here (Or.inl rfl) hfull⟩
    · next hroom =>
      have hitems := (h.items (depth + 1) (skipBlanks t)).of_skipBlanks
      match readItems terms n (depth + 1) (skipBlanks t), hitems with
      | .ok (items, rest), ⟨⟨u, hu, hjs⟩, hcheck⟩ =>
        refine ⟨⟨openArray :: (u ++ [closeArray]), by simp [hu], .array hjs⟩, ?_⟩
        rw [check, if_neg hroom, hcheck]
      | .error .tooDeep, ⟨start, rest, hstart, hs⟩ =>
        exact ⟨openArray :: start, rest, by simp [hstart], .array (by simpa using hroom) hs⟩
      | .error .invalid, _ => trivial

/-- The reader of objects tells what it should if the readers of its members do. -/
theorem object_succ (h : terms.ReadersTell n) (t : Text) :
    terms.TellsValue depth (openObject :: t) (readValue terms (n + 1) depth (openObject :: t)) := by
  cases hend : expect? closeObject t with
  | some rest =>
    rw [readValue_emptyObject hend]
    split
    · next hfull => exact ⟨[openObject], t, rfl, .here (Or.inr rfl) hfull⟩
    · next hroom =>
      obtain ⟨w, hw, rfl⟩ := expect?_eq_some hend
      rw [close]
      split
      · next haccepts =>
        refine ⟨⟨openObject :: (w ++ [closeObject]), by simp, .emptyObject hw⟩, ?_⟩
        rw [check, if_neg hroom, checkMembers]
        exact if_pos haccepts
      · trivial
  | none =>
    rw [readValue_object hend]
    split
    · next hfull => exact ⟨[openObject], t, rfl, .here (Or.inr rfl) hfull⟩
    · next hroom =>
      have hmembers := (h.members (depth + 1) (skipBlanks t)).of_skipBlanks
      match readMembers terms n (depth + 1) (skipBlanks t), hmembers with
      | .ok (members, rest), ⟨⟨u, hu, hms⟩, hcheck⟩ =>
        dsimp only [Except.bind, close]
        split
        · next haccepts =>
          refine ⟨⟨openObject :: (u ++ [closeObject]), by simp [hu], .object hms⟩, ?_⟩
          rw [check, if_neg hroom, hcheck]
          exact if_pos haccepts
        · trivial
      | .error .tooDeep, ⟨start, rest, hstart, hs⟩ =>
        exact ⟨openObject :: start, rest, by simp [hstart], .object (by simpa using hroom) hs⟩
      | .error .invalid, _ => trivial

/-- The reader of values tells what it should if the readers for less fuel do. -/
theorem value_succ (h : terms.ReadersTell n) (depth : Nat) (t : Text) :
    terms.TellsValue depth t (readValue terms (n + 1) depth t) := by
  cases t with
  | nil => trivial
  | cons c t =>
    by_cases hstring : c = quote
    · rw [hstring, readValue_string]
      cases hread : readString? t with
      | none => trivial
      | some result =>
        obtain ⟨v, rest⟩ := result
        obtain ⟨u, rfl, hspells⟩ := readString?_eq_some_iff.1 hread
        exact ⟨⟨quote :: (u ++ [quote]), by simp, .string hspells⟩, rfl⟩
    · by_cases harray : c = openArray
      · rw [harray]
        exact h.array_succ t
      · by_cases hobject : c = openObject
        · rw [hobject]
          exact h.object_succ t
        · rw [readValue_other hstring harray hobject]
          cases hword : readWord? (c :: t) with
          | some result =>
            obtain ⟨j, rest⟩ := result
            obtain ⟨w, hmem, ht⟩ := readWord?_eq_some hword
            refine ⟨⟨w, ht, .word hmem⟩, ?_⟩
            simp only [words, List.mem_cons, List.not_mem_nil, or_false, Prod.mk.injEq] at hmem
            rcases hmem with ⟨-, rfl⟩ | ⟨-, rfl⟩ | ⟨-, rfl⟩ | ⟨-, rfl⟩ | ⟨-, rfl⟩ | ⟨-, rfl⟩ <;> rfl
          | none =>
            cases hnumber : readNumber? (c :: t) with
            | none => trivial
            | some result =>
              obtain ⟨j, rest⟩ := result
              obtain ⟨u, ht, hu, rfl⟩ := isNumber_of_readNumber? hnumber
              exact ⟨⟨u, ht, .number hu⟩, rfl⟩

/-- The reader of items tells what it should if the readers for less fuel do. -/
theorem items_succ (h : terms.ReadersTell n) (depth : Nat) (t : Text) :
    terms.TellsItems depth t (readItems terms (n + 1) depth t) := by
  have hvalue := h.value depth t
  rw [readItems]
  generalize readValue terms n depth t = value at hvalue ⊢
  obtain flaw | ⟨j, t₁⟩ := value
  · cases flaw with
    | invalid => trivial
    | tooDeep =>
      obtain ⟨start, rest, hstart, hs⟩ := hvalue
      exact ⟨start, rest, hstart, .here (w := []) (by simp [AllBlank]) hs⟩
  · obtain ⟨⟨v, hv, hj⟩, hcheck⟩ := hvalue
    dsimp only
    cases hcomma : expect? ',' t₁ with
    | some t₂ =>
      obtain ⟨w, hw, rfl⟩ := expect?_eq_some hcomma
      have hitems := (h.items depth (skipBlanks t₂)).of_skipBlanks
      dsimp only
      generalize readItems terms n depth (skipBlanks t₂) = items at hitems ⊢
      obtain flaw | ⟨js, rest⟩ := items
      · cases flaw with
        | invalid => trivial
        | tooDeep =>
          obtain ⟨start, rest, hstart, hs⟩ := hitems
          exact ⟨v ++ w ++ .ofChar ',' :: start, rest, by simp [hv, hstart],
            .later (hj.element hw) hcheck hs⟩
      · obtain ⟨⟨u, hu, hjs⟩, hrest⟩ := hitems
        refine ⟨⟨v ++ w ++ .ofChar ',' :: u, by simp [hv, hu], .more (hj.element hw) hjs⟩, ?_⟩
        rw [checkItems, hcheck]
        exact hrest
    | none =>
      cases hclose : expect? closeArray t₁ with
      | none => trivial
      | some rest =>
        obtain ⟨w, hw, rfl⟩ := expect?_eq_some hclose
        refine ⟨⟨v ++ w, by simp [hv], .one (hj.element hw)⟩, ?_⟩
        rw [checkItems, hcheck]
        rfl

/-- The reader of members tells what it should if the readers for less fuel do. -/
theorem members_succ (h : terms.ReadersTell n) (depth : Nat) (t : Text) :
    terms.TellsMembers depth t (readMembers terms (n + 1) depth t) := by
  cases t with
  | nil => trivial
  | cons c t =>
    rw [readMembers]
    split
    · next hquote =>
      cases hkey : readString? t with
      | none => trivial
      | some result =>
        obtain ⟨key, t₁⟩ := result
        obtain ⟨k, rfl, hk⟩ := readString?_eq_some_iff.1 hkey
        dsimp only
        cases hcolon : expect? ':' t₁ with
        | none => trivial
        | some t₂ =>
          obtain ⟨w, hw, rfl⟩ := expect?_eq_some hcolon
          obtain ⟨w₁, hw₁, ht₂⟩ := exists_blanks t₂
          have hvalue := h.value depth (skipBlanks t₂)
          dsimp only
          generalize readValue terms n depth (skipBlanks t₂) = value at hvalue ⊢
          obtain flaw | ⟨j, t₃⟩ := value
          · cases flaw with
            | invalid => trivial
            | tooDeep =>
              obtain ⟨start, rest, hstart, hs⟩ := hvalue
              refine ⟨_, rest, ?_, .here (w := []) (by simp [AllBlank]) hk hw hw₁ hs⟩
              rw [hquote, ht₂, hstart]
              simp
          · obtain ⟨⟨v, hv, hj⟩, hcheck⟩ := hvalue
            rw [hv] at ht₂
            have hmember : ∀ w₂, AllBlank w₂ → Member
                (quote :: (k ++ quote :: (w ++ .ofChar ':' :: (w₁ ++ (v ++ w₂))))) (key, j) :=
              fun w₂ hw₂ => .pair (w := []) (by simp [AllBlank]) hk hw (.padded hw₁ hj hw₂)
            rw [hquote, ht₂]
            dsimp only
            cases hcomma : expect? ',' t₃ with
            | some t₄ =>
              obtain ⟨w₂, hw₂, rfl⟩ := expect?_eq_some hcomma
              have hmembers := (h.members depth (skipBlanks t₄)).of_skipBlanks
              dsimp only
              generalize readMembers terms n depth (skipBlanks t₄) = members at hmembers ⊢
              obtain flaw | ⟨ms, rest⟩ := members
              · cases flaw with
                | invalid => trivial
                | tooDeep =>
                  obtain ⟨start, rest, hstart, hs⟩ := hmembers
                  exact ⟨_, rest, by simp [hstart], .later (hmember w₂ hw₂) hcheck hs⟩
              · obtain ⟨⟨u, hu, hms⟩, hrest⟩ := hmembers
                refine ⟨⟨_, by simp [hu], .more (hmember w₂ hw₂) hms⟩, ?_⟩
                rw [checkMembers, hcheck]
                exact hrest
            | none =>
              cases hclose : expect? closeObject t₃ with
              | none => trivial
              | some rest =>
                obtain ⟨w₂, hw₂, rfl⟩ := expect?_eq_some hclose
                refine ⟨⟨_, by simp, .one (hmember w₂ hw₂)⟩, ?_⟩
                rw [checkMembers, hcheck]
                rfl
    · trivial

end ReadersTell

/-- With any fuel the readers tell what they should. -/
theorem readersTell (terms : Terms) : ∀ fuel : Nat, terms.ReadersTell fuel
  | 0 => ⟨fun _ _ => trivial, fun _ _ => trivial, fun _ _ => trivial⟩
  | n + 1 => ⟨(readersTell terms n).value_succ, (readersTell terms n).items_succ,
      (readersTell terms n).members_succ⟩

end Terms

/-! ## Documents -/

/-- What is read is a document of the rules, with the value that the rules give, if the terms accept
the value; and nothing else is read. -/
theorem parse_eq_ok_iff {t : Text} {j : Json} :
    parse terms t = .ok j ↔ Element t j ∧ terms.check 0 j = .ok () := by
  constructor
  · intro h
    have hvalue := (Terms.readersTell terms (2 * t.length + 2)).value 0 (skipBlanks t)
    rw [parse] at h
    generalize readValue terms (2 * t.length + 2) 0 (skipBlanks t) = result at hvalue h
    obtain flaw | ⟨value, rest⟩ := result
    · cases h
    · obtain ⟨⟨v, hv, hvalue⟩, hcheck⟩ := hvalue
      dsimp only at h
      split at h
      · next hrest =>
        cases h
        obtain ⟨w, hw, ht⟩ := exists_blanks t
        rw [ht, hv]
        exact ⟨.padded hw hvalue (allBlank_of_skipBlanks hrest), hcheck⟩
      · cases h
  · rintro ⟨h, hcheck⟩
    rw [h.parse, hcheck]
    rfl

/-- A text starts so that it goes too deep, after blanks; whatever comes later does not matter. -/
def Terms.GoesTooDeep (terms : Terms) (t : Text) : Prop :=
  ∃ w start rest, t = w ++ (start ++ rest) ∧ AllBlank w ∧ terms.Exceeds 0 start

/-- A text that goes too deep opens more brackets than the limit allows. -/
theorem Terms.GoesTooDeep.exists_lt_countP {t : Text} (h : terms.GoesTooDeep t) :
    ∃ l ∈ terms.limit, l < t.countP Terms.opens := by
  obtain ⟨w, start, rest, rfl, -, hs⟩ := h
  obtain ⟨l, hl, hlt⟩ := hs.exists_lt_countP
  refine ⟨l, hl, ?_⟩
  rw [List.countP_append, List.countP_append]
  omega

/-- Reading is given up because of the limit just if the text starts so that it goes too deep. -/
theorem parse_eq_tooDeep_iff {t : Text} :
    parse terms t = .error .tooDeep ↔ terms.GoesTooDeep t := by
  constructor
  · intro h
    have hvalue := (Terms.readersTell terms (2 * t.length + 2)).value 0 (skipBlanks t)
    obtain ⟨w, hw, ht⟩ := exists_blanks t
    rw [parse] at h
    generalize readValue terms (2 * t.length + 2) 0 (skipBlanks t) = result at hvalue h
    obtain flaw | ⟨value, rest⟩ := result
    · cases h
      obtain ⟨start, rest, hstart, hs⟩ := hvalue
      exact ⟨w, start, rest, by rw [← hstart]; exact ht, hw, hs⟩
    · dsimp only at h
      split at h <;> cases h
  · rintro ⟨w, start, rest, rfl, hw, hs⟩
    rw [parse, skipBlanks_append hw, hs.skipBlanks_append, hs.read _ rest (by simp; omega)]

end Json

end JavaText
