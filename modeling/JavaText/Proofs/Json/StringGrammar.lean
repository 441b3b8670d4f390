import JavaText.Proofs.Json.Strings

/-!
# The grammar of strings

What may stand between the quotes of a string, and what it spells, as rules over the text alone
(`Json.Spells`): a character stands for itself, a backslash and a letter for a character that is
hard to write, and a number for a code unit. Two numbers that are a high and a low surrogate spell
one code point together; a number spells its own code point only where it is not the first of such
a pair.

The reader goes through units first and joins pairs afterwards. Its two passes agree with the
rules (`Json.readString?_eq_some_iff`).
-/

namespace JavaText

namespace Json

/-! ## The rules -/

/-- A code unit given by its number: a backslash, the letter `u` and four hexadecimal digits. -/
inductive UnitEscape : Text → CodePoint → Prop
  | digits {a b c d u : CodePoint} (h : hexUnit? a b c d = some u) :
      UnitEscape [backslash, .ofChar 'u', a, b, c, d] u

/-- What stands between the quotes of a string, and the text that it spells. -/
inductive Spells : Text → Text → Prop
  | nil : Spells [] []
  | plain {c : CodePoint} {t v : Text} (hquote : c ≠ quote) (hbackslash : c ≠ backslash)
      (hcontrol : 0x20 ≤ c.val) (h : Spells t v) : Spells (c :: t) (c :: v)
  | short {e x : CodePoint} {t v : Text} (he : shortEscape? e = some x) (h : Spells t v) :
      Spells (backslash :: e :: t) (x :: v)
  | unit {u : CodePoint} {esc t v : Text} (hu : UnitEscape esc u)
      (halone : u.isHighSurrogate → ∀ esc' w t', UnitEscape esc' w → t = esc' ++ t' →
        w.isLowSurrogate = false)
      (h : Spells t v) : Spells (esc ++ t) (u :: v)
  | pair {u w : CodePoint} {esc esc' t v : Text} (hu : UnitEscape esc u) (hw : UnitEscape esc' w)
      (hhigh : u.isHighSurrogate) (hlow : w.isLowSurrogate) (h : Spells t v) :
      Spells (esc ++ (esc' ++ t)) (CodePoint.joinSurrogates u w :: v)

/-- What stands between the quotes of a string, and the units in which it is read. -/
inductive Units : Text → List StringUnit → Prop
  | nil : Units [] []
  | plain {c : CodePoint} {t : Text} {us : List StringUnit} (hquote : c ≠ quote)
      (hbackslash : c ≠ backslash) (hcontrol : 0x20 ≤ c.val) (h : Units t us) :
      Units (c :: t) (⟨c, false⟩ :: us)
  | short {e x : CodePoint} {t : Text} {us : List StringUnit} (he : shortEscape? e = some x)
      (h : Units t us) : Units (backslash :: e :: t) (⟨x, true⟩ :: us)
  | unit {u : CodePoint} {esc t : Text} {us : List StringUnit} (hu : UnitEscape esc u)
      (h : Units t us) : Units (esc ++ t) (⟨u, true⟩ :: us)

/-! ## Units are read as the rules say -/

theorem shortEscape?_u : shortEscape? (.ofChar 'u') = none := by
  decide

/-- A character that has a short escape is no surrogate. -/
theorem val_lt_of_shortEscape? {e x : CodePoint} (h : shortEscape? e = some x) : x.val < 0x80 := by
  unfold shortEscape? at h
  split at h
  all_goals cases h
  all_goals first | omega | decide

theorem readUnits?_nil_quote (rest : Text) : readUnits? (quote :: rest) = some ([], rest) := by
  rw [readUnits?.eq_def]
  cases rest <;> rfl

/-- A short escape is read as the character that it stands for. -/
theorem readUnits?_short {e x : CodePoint} (he : shortEscape? e = some x) (t : Text) :
    readUnits? (backslash :: e :: t) = consUnit ⟨x, true⟩ (readUnits? t) := by
  have hbackslash : ¬backslash = quote := by decide
  rw [readUnits?.eq_def]
  simp only [hbackslash, if_false, if_true, he]

/-- An escape of four digits is read as its number. -/
theorem readUnits?_unit {esc : Text} {u : CodePoint} (hu : UnitEscape esc u) (t : Text) :
    readUnits? (esc ++ t) = consUnit ⟨u, true⟩ (readUnits? t) := by
  obtain ⟨h⟩ := hu
  have hbackslash : ¬backslash = quote := by decide
  have hval : (CodePoint.ofChar 'u').val = 0x75 := by decide
  simp only [List.cons_append, List.nil_append, readUnits?, hbackslash, if_false, if_true,
    shortEscape?_u, hval, h]

/-- Units that follow the rules are read, up to the quote. -/
theorem Units.readUnits? {t : Text} {us : List StringUnit} (h : Units t us) (rest : Text) :
    Json.readUnits? (t ++ quote :: rest) = some (us, rest) := by
  induction h with
  | nil => exact readUnits?_nil_quote rest
  | plain hquote hbackslash hcontrol _ ih =>
    rw [List.cons_append, readUnits?_cons hquote hbackslash hcontrol, ih]
    rfl
  | short he _ ih =>
    rw [List.cons_append, List.cons_append, readUnits?_short he, ih]
    rfl
  | unit hu _ ih =>
    rw [List.append_assoc, readUnits?_unit hu, ih]
    rfl

theorem consUnit_eq_some {u : StringUnit} {o : Option (List StringUnit × Text)}
    {us : List StringUnit} {rest : Text} (h : consUnit u o = some (us, rest)) :
    ∃ us', o = some (us', rest) ∧ us = u :: us' := by
  cases o with
  | none => cases h
  | some p =>
    cases h
    exact ⟨p.1, rfl, rfl⟩

/-- Units that are read follow the rules. -/
theorem units_of_readUnits? {s rest : Text} {us : List StringUnit}
    (h : Json.readUnits? s = some (us, rest)) : ∃ t, s = t ++ quote :: rest ∧ Units t us := by
  fun_induction Json.readUnits? s generalizing us rest with
  | case1 => cases h
  | case2 => cases h; exact ⟨[], rfl, .nil⟩
  | case3 => cases h
  | case4 => cases h; exact ⟨[], rfl, .nil⟩
  | case5 e t x he _ ih =>
    obtain ⟨us', h', rfl⟩ := consUnit_eq_some h
    obtain ⟨t', rfl, hunits⟩ := ih h'
    exact ⟨backslash :: e :: t', rfl, .short he hunits⟩
  | case6 e hshort hu a b c d t x hx _ ih =>
    obtain ⟨us', h', rfl⟩ := consUnit_eq_some h
    obtain ⟨t', rfl, hunits⟩ := ih h'
    obtain rfl : e = .ofChar 'u' := Fin.ext hu
    exact ⟨_, rfl, .unit (.digits hx) hunits⟩
  | case7 => cases h
  | case8 => cases h
  | case9 => cases h
  | case10 => cases h
  | case11 c e t hquote hbackslash hcontrol ih =>
    obtain ⟨us', h', rfl⟩ := consUnit_eq_some h
    obtain ⟨t', ht, hunits⟩ := ih h'
    exact ⟨c :: t', by rw [ht]; rfl, .plain hquote hbackslash (by omega) hunits⟩

/-! ## Units are joined as the rules say -/

/-- What starts with the number of a code unit has this unit for its first. -/
theorem Units.head_of_unitEscape {esc t : Text} {w : CodePoint} {us : List StringUnit}
    (h : Units (esc ++ t) us) (hw : UnitEscape esc w) : us.head? = some ⟨w, true⟩ := by
  have hread := h.readUnits? []
  rw [List.append_assoc, readUnits?_unit hw] at hread
  obtain ⟨us', -, rfl⟩ := consUnit_eq_some hread
  rfl

/-- A unit that makes no pair with the next one is joined to nothing. -/
theorem joinUnits_cons_of_not_pair {u : StringUnit} {us : List StringUnit}
    (h : u.escaped → u.code.isHighSurrogate → ∀ v ∈ us.head?, v.escaped →
      v.code.isLowSurrogate = false) :
    joinUnits (u :: us) = u.code :: joinUnits us := by
  cases us with
  | nil => rfl
  | cons v us =>
    rw [joinUnits, if_neg]
    simp only [Bool.and_eq_true, not_and, Bool.not_eq_true]
    rintro ⟨⟨hu, hv⟩, hhigh⟩
    exact h hu hhigh v rfl hv

/-- An escaped surrogate was given by its number. -/
theorem Units.unit_of_isSurrogate {t : Text} {u : StringUnit} {us : List StringUnit}
    (h : Units t (u :: us)) (hescaped : u.escaped)
    (hsurrogate : u.code.isHighSurrogate ∨ u.code.isLowSurrogate) :
    ∃ esc t', t = esc ++ t' ∧ UnitEscape esc u.code ∧ Units t' us := by
  cases h with
  | plain => cases hescaped
  | short he h =>
    have hlt := val_lt_of_shortEscape? he
    rw [CodePoint.isHighSurrogate_iff, CodePoint.isLowSurrogate_iff] at hsurrogate
    dsimp only at hsurrogate
    omega
  | unit hu h => exact ⟨_, _, rfl, hu, h⟩

/-- A unit that makes no pair with the next one spells its own code point. -/
theorem Units.spells_cons {t : Text} {u : StringUnit} {us : List StringUnit} {v : Text}
    (h : Units t (u :: us))
    (hpair : u.escaped → u.code.isHighSurrogate → ∀ w ∈ us.head?, w.escaped →
      w.code.isLowSurrogate = false)
    (hrest : ∀ t', Units t' us → Spells t' v) : Spells t (u.code :: v) := by
  cases h with
  | plain hquote hbackslash hcontrol h => exact .plain hquote hbackslash hcontrol (hrest _ h)
  | short he h => exact .short he (hrest _ h)
  | unit hu h =>
    refine .unit hu (fun hhigh esc' w t' hw ht => ?_) (hrest _ h)
    rw [ht] at h
    exact hpair rfl hhigh ⟨w, true⟩ (h.head_of_unitEscape hw) rfl

/-- What units spell is what they are when pairs are joined. -/
theorem Units.spells {t : Text} {us : List StringUnit} (h : Units t us) :
    Spells t (joinUnits us) := by
  fun_induction joinUnits us generalizing t with
  | case1 =>
    cases h
    exact .nil
  | case2 u =>
    refine h.spells_cons (fun _ _ w hw => by cases hw) fun t' ht' => ?_
    cases ht'
    exact .nil
  | case3 u v us hpair ih =>
    simp only [Bool.and_eq_true] at hpair
    obtain ⟨⟨⟨hu, hv⟩, hhigh⟩, hlow⟩ := hpair
    obtain ⟨esc, t', rfl, hesc, h'⟩ := h.unit_of_isSurrogate hu (Or.inl hhigh)
    obtain ⟨esc', t'', rfl, hesc', h''⟩ := h'.unit_of_isSurrogate hv (Or.inr hlow)
    exact .pair hesc hesc' hhigh hlow (ih h'')
  | case4 u v us hpair ih =>
    refine h.spells_cons (fun hu hhigh w hw hescaped => ?_) fun t' ht' => ih ht'
    obtain rfl : v = w := Option.some.inj hw
    simpa [hu, hhigh, hescaped] using hpair

/-- A text that follows the rules is read in units that are joined to what it spells. -/
theorem Spells.units {t v : Text} (h : Spells t v) : ∃ us, Units t us ∧ joinUnits us = v := by
  induction h with
  | nil => exact ⟨[], .nil, rfl⟩
  | plain hquote hbackslash hcontrol _ ih =>
    obtain ⟨us, hunits, rfl⟩ := ih
    exact ⟨_, .plain hquote hbackslash hcontrol hunits,
      joinUnits_cons_of_not_pair fun hescaped => by cases hescaped⟩
  | short he _ ih =>
    obtain ⟨us, hunits, rfl⟩ := ih
    refine ⟨_, .short he hunits, joinUnits_cons_of_not_pair fun _ hhigh => ?_⟩
    have hlt := val_lt_of_shortEscape? he
    rw [CodePoint.isHighSurrogate_iff] at hhigh
    dsimp only at hhigh
    omega
  | unit hu halone _ ih =>
    obtain ⟨us, hunits, rfl⟩ := ih
    refine ⟨_, .unit hu hunits, joinUnits_cons_of_not_pair fun _ hhigh w hw hescaped => ?_⟩
    cases us with
    | nil => cases hw
    | cons w' us =>
      obtain rfl : w' = w := Option.some.inj hw
      cases hlow : w'.code.isLowSurrogate with
      | false => rfl
      | true =>
        obtain ⟨esc', t', rfl, hesc', -⟩ := hunits.unit_of_isSurrogate hescaped (Or.inr hlow)
        exact hlow.symm.trans (halone hhigh esc' _ t' hesc' rfl)
  | pair hu hw hhigh hlow _ ih =>
    obtain ⟨us, hunits, rfl⟩ := ih
    exact ⟨_, .unit hu (.unit hw hunits), joinUnits_pair us rfl rfl hhigh hlow⟩

/-- A string that follows the rules is read as what it spells. -/
theorem Spells.readString? {t v : Text} (h : Spells t v) (rest : Text) :
    Json.readString? (t ++ quote :: rest) = some (v, rest) := by
  obtain ⟨us, hunits, rfl⟩ := h.units
  rw [Json.readString?, hunits.readUnits?]
  rfl

/-- The reader of strings goes by the rules: it takes what stands before the closing quote for what
it spells. -/
theorem readString?_eq_some_iff {s v rest : Text} :
    Json.readString? s = some (v, rest) ↔ ∃ t, s = t ++ quote :: rest ∧ Spells t v := by
  constructor
  · intro h
    obtain ⟨⟨us, rest'⟩, hread, heq⟩ := Option.map_eq_some_iff.1 h
    cases heq
    obtain ⟨t, rfl, hunits⟩ := units_of_readUnits? hread
    exact ⟨t, rfl, hunits.spells⟩
  · rintro ⟨t, rfl, h⟩
    exact h.readString? rest

end Json

end JavaText
