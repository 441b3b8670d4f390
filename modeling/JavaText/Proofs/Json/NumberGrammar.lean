import JavaText.Proofs.Json.Strings

/-!
# The grammar of numbers

What a number is, as rules over the text alone (`Json.IsNumber`): perhaps a sign, a whole part, and
perhaps a fraction and an exponent. The reader takes each part as far as it goes, so what it takes
is a number of the rules whatever follows (`Json.isNumber_of_readNumber?`); conversely a number
of the rules is read as a whole where what follows cannot be part of it
(`Json.IsNumber.readNumber?`).
-/

namespace JavaText

namespace Json

/-! ## The rules -/

/-- A run of digits. -/
def AllDigits (t : Text) : Prop :=
  ∀ c ∈ t, c.isAsciiDigit = true

/-- The whole part of a number. -/
inductive IsWhole : Text → Prop
  | zero : IsWhole [.ofChar '0']
  | digits {c : CodePoint} {t : Text} (hne : c ≠ .ofChar '0') (h : AllDigits (c :: t)) :
      IsWhole (c :: t)

/-- The fraction of a number. -/
inductive IsFraction : Text → Prop
  | none : IsFraction []
  | digits {d : CodePoint} {t : Text} (h : AllDigits (d :: t)) : IsFraction (.ofChar '.' :: d :: t)

/-- The exponent of a number. -/
inductive IsExponent : Text → Prop
  | none : IsExponent []
  | digits {e d : CodePoint} {sign t : Text} (he : e = .ofChar 'e' ∨ e = .ofChar 'E')
      (hsign : sign = [] ∨ sign = [.ofChar '+'] ∨ sign = [.ofChar '-']) (h : AllDigits (d :: t)) :
      IsExponent (e :: (sign ++ d :: t))

/-- A number. Only a whole number is limited in length. -/
inductive IsNumber : Text → Prop
  | parts {sign whole fraction exponent : Text} (hsign : sign = [] ∨ sign = [.ofChar '-'])
      (hwhole : IsWhole whole) (hfraction : IsFraction fraction) (hexponent : IsExponent exponent)
      (hlimit : fraction = [] → exponent = [] → whole.length ≤ Text.maxDigits) :
      IsNumber (sign ++ whole ++ fraction ++ exponent)

/-- What follows cannot be part of a number that ends here. -/
def EndsNumber (rest : Text) : Prop :=
  ∀ c ∈ rest.head?, c.isAsciiDigit = false ∧ c.val ≠ 0x2e ∧ c.val ≠ 0x65 ∧ c.val ≠ 0x45

/-! ## Digits -/

/-- A run of digits that no digit follows is taken as a whole. -/
theorem spanDigits_append {t rest : Text} (ht : AllDigits t)
    (h : ∀ c ∈ rest.head?, c.isAsciiDigit = false) : spanDigits (t ++ rest) = (t, rest) := by
  have hrest : rest.takeWhile CodePoint.isAsciiDigit = [] ∧
      rest.dropWhile CodePoint.isAsciiDigit = rest := by
    cases rest with
    | nil => exact ⟨rfl, rfl⟩
    | cons c rest => simp [h c rfl]
  rw [spanDigits, List.takeWhile_append_of_pos ht, List.dropWhile_append_of_pos ht, hrest.1,
    hrest.2, List.append_nil]

/-- The digits that are split off and the rest are the text. -/
theorem spanDigits_eq {t digits rest : Text} (h : spanDigits t = (digits, rest)) :
    t = digits ++ rest ∧ AllDigits digits := by
  cases h
  exact ⟨List.takeWhile_append_dropWhile.symm, fun _ => List.all_eq_true.1 List.all_takeWhile _⟩

/-- The digits are next to each other. -/
theorem isAsciiDigit_iff {c : CodePoint} :
    c.isAsciiDigit = true ↔ 0x30 ≤ c.val ∧ c.val ≤ 0x39 := by
  simp [CodePoint.isAsciiDigit]

theorem eq_ofChar {c : CodePoint} {d : Char} (h : c.val = d.toNat) : c = .ofChar d :=
  Fin.ext h

/-! ## Signs and whole parts -/

/-- A sign before a digit is split off. -/
theorem spanSign_append {sign t : Text} (hsign : sign = [] ∨ sign = [.ofChar '-'])
    (h : ∀ c ∈ t.head?, c.isAsciiDigit = true) : spanSign (sign ++ t) = (sign, t) := by
  rcases hsign with rfl | rfl
  · cases t with
    | nil => rfl
    | cons c t =>
      have hc := isAsciiDigit_iff.1 (h c rfl)
      rw [List.nil_append, spanSign, if_neg (by omega)]
  · rfl

/-- The sign that is split off and the rest are the text. -/
theorem spanSign_eq {t sign rest : Text} (h : spanSign t = (sign, rest)) :
    t = sign ++ rest ∧ (sign = [] ∨ sign = [.ofChar '-']) := by
  unfold spanSign at h
  split at h
  · split at h
    · next hc =>
      cases h
      exact ⟨rfl, Or.inr (congrArg (· :: []) (eq_ofChar hc))⟩
    · cases h
      exact ⟨rfl, Or.inl rfl⟩
  · cases h
    exact ⟨rfl, Or.inl rfl⟩

/-- The whole part of a number starts with a digit. -/
theorem IsWhole.eq_cons {t : Text} (h : IsWhole t) :
    ∃ c u, t = c :: u ∧ c.isAsciiDigit = true := by
  cases h with
  | zero => exact ⟨_, _, rfl, by decide⟩
  | digits _ h => exact ⟨_, _, rfl, h _ (by simp)⟩

/-- A whole part is split off where no digit follows. -/
theorem spanWhole?_append {t rest : Text} (ht : IsWhole t)
    (h : ∀ c ∈ rest.head?, c.isAsciiDigit = false) : spanWhole? (t ++ rest) = some (t, rest) := by
  cases ht with
  | zero => rfl
  | @digits c t hne hdigits =>
    have hval : ¬c.val = 0x30 := fun hc => hne (eq_ofChar hc)
    rw [List.cons_append, spanWhole?, if_neg hval, if_pos (hdigits c (by simp)),
      ← List.cons_append, spanDigits_append hdigits h]

/-- What is split off is a whole part. -/
theorem spanWhole?_eq_some {t whole rest : Text} (h : spanWhole? t = some (whole, rest)) :
    t = whole ++ rest ∧ IsWhole whole := by
  unfold spanWhole? at h
  split at h
  · next c u =>
    split at h
    · next hc =>
      cases h
      obtain rfl : c = .ofChar '0' := eq_ofChar hc
      exact ⟨rfl, .zero⟩
    · next hc =>
      split at h
      · next hdigit =>
        obtain ⟨ht, hall⟩ := spanDigits_eq (Option.some.inj h)
        refine ⟨ht, ?_⟩
        -- the run of digits starts with the first character, which is one
        cases whole with
        | nil => simp [spanDigits, hdigit] at h
        | cons d whole =>
          obtain rfl : c = d := (List.cons.inj ht).1
          exact .digits (fun hzero => hc (by rw [hzero]; rfl)) hall
      · cases h
  · cases h

/-! ## Fractions and exponents -/

theorem spanFraction_of_ne {t : Text} (h : ∀ c ∈ t.head?, c.val ≠ 0x2e) :
    spanFraction t = ([], t) := by
  unfold spanFraction
  split
  · next c t =>
    split
    · rfl
    · rw [if_neg (h c rfl)]
  · rfl

/-- A fraction is split off where no digit follows. -/
theorem spanFraction_append {t rest : Text} (ht : IsFraction t)
    (h : ∀ c ∈ rest.head?, c.isAsciiDigit = false ∧ c.val ≠ 0x2e) :
    spanFraction (t ++ rest) = (t, rest) := by
  cases ht with
  | none => exact spanFraction_of_ne fun c hc => (h c hc).2
  | digits hdigits =>
    have hspan := spanDigits_append hdigits fun c hc => (h c hc).1
    rw [List.cons_append] at hspan
    rw [List.cons_append, List.cons_append, spanFraction, hspan]
    exact if_pos rfl

/-- What is split off is a fraction, or nothing. -/
theorem spanFraction_eq {t fraction rest : Text} (h : spanFraction t = (fraction, rest)) :
    t = fraction ++ rest ∧ IsFraction fraction := by
  unfold spanFraction at h
  split at h
  · next c t =>
    split at h
    · cases h
      exact ⟨rfl, .none⟩
    · next digits u hne hspan =>
      obtain ⟨rfl, hall⟩ := spanDigits_eq hspan
      split at h
      · next hc =>
        cases h
        obtain ⟨d, ds, rfl⟩ := List.exists_cons_of_ne_nil hne
        obtain rfl : c = .ofChar '.' := eq_ofChar hc
        exact ⟨rfl, .digits hall⟩
      · cases h
        exact ⟨rfl, .none⟩
  · cases h
    exact ⟨rfl, .none⟩

/-- The sign of an exponent and what follows it. -/
def spanExponentSign : Text → Text × Text
  | s :: t => if s.val = 0x2b ∨ s.val = 0x2d then ([s], t) else ([], s :: t)
  | [] => ([], [])

/-- An exponent starts with its letter and has digits, or else nothing is split off. -/
theorem spanExponent_cons (c : CodePoint) (t : Text) :
    spanExponent (c :: t) =
      if c.val = 0x65 ∨ c.val = 0x45 then
        match spanDigits (spanExponentSign t).2 with
        | ([], _) => ([], c :: t)
        | (digits, rest) => (c :: (spanExponentSign t).1 ++ digits, rest)
      else ([], c :: t) :=
  rfl

theorem spanExponentSign_append {sign t : Text}
    (hsign : sign = [] ∨ sign = [.ofChar '+'] ∨ sign = [.ofChar '-'])
    (h : ∀ c ∈ t.head?, c.isAsciiDigit = true) : spanExponentSign (sign ++ t) = (sign, t) := by
  rcases hsign with rfl | rfl | rfl
  · cases t with
    | nil => rfl
    | cons c t =>
      have hc := isAsciiDigit_iff.1 (h c rfl)
      rw [List.nil_append, spanExponentSign, if_neg (by omega)]
  · rfl
  · rfl

/-- The sign of an exponent and the rest are the text. -/
theorem spanExponentSign_eq (t : Text) :
    t = (spanExponentSign t).1 ++ (spanExponentSign t).2 ∧
      ((spanExponentSign t).1 = [] ∨ (spanExponentSign t).1 = [.ofChar '+'] ∨
        (spanExponentSign t).1 = [.ofChar '-']) := by
  unfold spanExponentSign
  split
  · split
    · next h =>
      rcases h with h | h
      · exact ⟨rfl, Or.inr (Or.inl (congrArg (· :: []) (eq_ofChar h)))⟩
      · exact ⟨rfl, Or.inr (Or.inr (congrArg (· :: []) (eq_ofChar h)))⟩
    · exact ⟨rfl, Or.inl rfl⟩
  · exact ⟨rfl, Or.inl rfl⟩

/-- An exponent is split off where the number ends. -/
theorem spanExponent_append {t rest : Text} (ht : IsExponent t) (h : EndsNumber rest) :
    spanExponent (t ++ rest) = (t, rest) := by
  cases ht with
  | none =>
    cases rest with
    | nil => rfl
    | cons c rest =>
      obtain ⟨-, -, he, hE⟩ := h c rfl
      rw [List.nil_append, spanExponent_cons, if_neg (by omega)]
  | @digits e d sign u he hsign hdigits =>
    have hmark : e.val = 0x65 ∨ e.val = 0x45 := he.imp (congrArg Fin.val) (congrArg Fin.val)
    have hspan := spanDigits_append hdigits fun c hc => (h c hc).1
    have hsplit := spanExponentSign_append (t := d :: u ++ rest) hsign fun c hc => by
      obtain rfl : d = c := Option.some.inj hc
      exact hdigits d (by simp)
    rw [List.cons_append, List.append_assoc, spanExponent_cons, if_pos hmark, hsplit, hspan]
    rfl

/-- What is split off is an exponent, or nothing. -/
theorem spanExponent_eq {t exponent rest : Text} (h : spanExponent t = (exponent, rest)) :
    t = exponent ++ rest ∧ IsExponent exponent := by
  cases t with
  | nil =>
    cases h
    exact ⟨rfl, .none⟩
  | cons c t =>
    obtain ⟨ht, hsign⟩ := spanExponentSign_eq t
    rw [spanExponent_cons] at h
    split at h
    · next hmark =>
      split at h
      · cases h
        exact ⟨rfl, .none⟩
      · next digits u hne hspan =>
        cases h
        obtain ⟨hrest, hall⟩ := spanDigits_eq hspan
        obtain ⟨d, ds, rfl⟩ := List.exists_cons_of_ne_nil hne
        refine ⟨?_, .digits (hmark.imp eq_ofChar eq_ofChar) hsign hall⟩
        rw [List.cons_append, List.cons_append, List.append_assoc, ← hrest, ← ht]
    · cases h
      exact ⟨rfl, .none⟩

/-! ## Numbers -/

/-- A number of the rules is read as a whole where nothing can go on with it. -/
theorem IsNumber.readNumber? {t rest : Text} (ht : IsNumber t) (h : EndsNumber rest) :
    Json.readNumber? (t ++ rest) = some (.number t, rest) := by
  obtain ⟨hsign, hwhole, hfraction, hexponent, hlimit⟩ := ht
  rename_i sign whole fraction exponent
  -- what follows each part does not start with a character of it
  have hafter : ∀ c ∈ (exponent ++ rest).head?, c.isAsciiDigit = false ∧ c.val ≠ 0x2e := by
    cases hexponent with
    | none => exact fun c hc => ⟨(h c hc).1, (h c hc).2.1⟩
    | digits he _ _ =>
      intro c hc
      obtain rfl := Option.some.inj hc
      rcases he with rfl | rfl <;> decide
  have hafter' : ∀ c ∈ (fraction ++ (exponent ++ rest)).head?, c.isAsciiDigit = false := by
    cases hfraction with
    | none => exact fun c hc => (hafter c hc).1
    | digits _ =>
      intro c hc
      obtain rfl := Option.some.inj hc
      decide
  have hdigit : ∀ c ∈ (whole ++ (fraction ++ (exponent ++ rest))).head?,
      c.isAsciiDigit = true := by
    obtain ⟨d, u, rfl, hd⟩ := hwhole.eq_cons
    intro c hc
    obtain rfl := Option.some.inj hc
    exact hd
  have hshort :
      ¬(fraction.isEmpty && exponent.isEmpty && decide (Text.maxDigits < whole.length)) := by
    simp only [Bool.and_eq_true, List.isEmpty_iff, decide_eq_true_eq, not_and, Nat.not_lt, and_imp]
    exact hlimit
  rw [Json.readNumber?]
  simp only [List.append_assoc, spanSign_append hsign hdigit, spanWhole?_append hwhole hafter',
    Option.bind_eq_bind, Option.bind_some, spanFraction_append hfraction hafter,
    spanExponent_append hexponent h, hshort, Bool.false_eq_true, if_false]

/-- What is read as a number is a number of the rules. -/
theorem isNumber_of_readNumber? {t rest : Text} {j : Json}
    (h : Json.readNumber? t = some (j, rest)) :
    ∃ u, t = u ++ rest ∧ IsNumber u ∧ j = .number u := by
  rw [Json.readNumber?] at h
  rcases hsign : spanSign t with ⟨sign, t₁⟩
  rw [hsign] at h
  obtain ⟨⟨whole, t₂⟩, hwhole, hread⟩ := Option.bind_eq_some_iff.1 h
  rcases hfraction : spanFraction t₂ with ⟨fraction, t₃⟩
  rcases hexponent : spanExponent t₃ with ⟨exponent, t₄⟩
  simp only [hfraction, hexponent] at hread
  obtain ⟨rfl, hs⟩ := spanSign_eq hsign
  obtain ⟨rfl, hw⟩ := spanWhole?_eq_some hwhole
  obtain ⟨rfl, hf⟩ := spanFraction_eq hfraction
  obtain ⟨rfl, he⟩ := spanExponent_eq hexponent
  split at hread
  · cases hread
  · next hshort =>
    cases hread
    refine ⟨_, by simp only [List.append_assoc], .parts hs hw hf he fun hnone hnone' => ?_, rfl⟩
    simpa [hnone, hnone'] using hshort

end Json

end JavaText
