import JavaText.Json.Reader
import JavaText.Json.Writer
import JavaText.Proofs.Encoding.Ascii
import JavaText.Proofs.Text.Numeral

/-!
# Strings of a document, written and read

A string is written code point by code point, and what is not printable ASCII as one or two numbers.
The reader takes the numbers for units of the string and joins those that stand as a surrogate
pair. It cannot tell a pair that spells one code point from a high and a low surrogate that stood
side by side, so a string comes back with its surrogate pairs joined (`Json.readString?_write`);
`Text.joinPairs` says what that is.
-/

namespace JavaText

/-! ## Surrogate pairs -/

namespace Text

/-- A text with every high surrogate that a low one directly follows joined to it. -/
def joinPairs : Text → Text
  | [] => []
  | [c] => [c]
  | c :: d :: t =>
    if c.isHighSurrogate && d.isLowSurrogate then CodePoint.joinSurrogates c d :: joinPairs t
    else c :: joinPairs (d :: t)

/-- Whether a high surrogate stands directly before a low one. -/
def hasPair : Text → Bool
  | c :: d :: t => (c.isHighSurrogate && d.isLowSurrogate) || hasPair (d :: t)
  | _ => false

/-- Joining pairs makes no text longer. -/
theorem length_joinPairs_le : ∀ t : Text, t.joinPairs.length ≤ t.length
  | [] => Nat.le_refl _
  | [_] => Nat.le_refl _
  | c :: d :: t => by
    have h := length_joinPairs_le t
    have h' := length_joinPairs_le (d :: t)
    rw [joinPairs]
    split
    · simp only [List.length_cons]
      omega
    · simp only [List.length_cons] at h' ⊢
      omega

/-- Joining changes every text that has a pair, since it becomes shorter. -/
theorem joinPairs_eq_iff : ∀ {t : Text}, t.joinPairs = t ↔ t.hasPair = false
  | [] => by simp [joinPairs, hasPair]
  | [_] => by simp [joinPairs, hasPair]
  | c :: d :: t => by
    rw [joinPairs, hasPair, Bool.or_eq_false_iff]
    split
    · next hpair =>
      refine iff_of_false (fun h => ?_) (fun h => by rw [hpair] at h; cases h.1)
      have hlen := congrArg List.length h
      have hle := length_joinPairs_le t
      simp only [List.length_cons] at hlen
      omega
    · next hpair =>
      rw [List.cons.injEq, joinPairs_eq_iff]
      exact ⟨fun h => ⟨Bool.not_eq_true _ ▸ hpair, h.2⟩, fun h => ⟨rfl, h.2⟩⟩

/-- No text of ASCII characters has a surrogate pair. -/
theorem hasPair_of_isAscii : ∀ {t : Text}, t.IsAscii → t.hasPair = false
  | [], _ => rfl
  | [_], _ => rfl
  | c :: d :: t, h => by
    obtain ⟨hc, hdt⟩ := isAscii_cons.1 h
    have hhigh : c.isHighSurrogate = false := by
      rw [CodePoint.isHighSurrogate, Bool.and_eq_false_iff, decide_eq_false_iff_not]
      exact Or.inl (by omega)
    rw [hasPair, hhigh, Bool.false_and, Bool.false_or, hasPair_of_isAscii hdt]

end Text

namespace CodePoint

theorem isHighSurrogate_iff {c : CodePoint} :
    c.isHighSurrogate = true ↔ 0xd800 ≤ c.val ∧ c.val ≤ 0xdbff := by
  simp [isHighSurrogate]

theorem isLowSurrogate_iff {c : CodePoint} :
    c.isLowSurrogate = true ↔ 0xdc00 ≤ c.val ∧ c.val ≤ 0xdfff := by
  simp [isLowSurrogate]

theorem val_ofNat {n : Nat} (h : n < 0x110000) : (ofNat n).val = n := by
  simp [ofNat, h]

theorem val_highSurrogate (c : CodePoint) :
    c.highSurrogate.val = 0xd800 + (c.val - 0x10000) / 0x400 % 0x400 :=
  val_ofNat (by omega)

theorem val_lowSurrogate (c : CodePoint) : c.lowSurrogate.val = 0xdc00 + c.val % 0x400 :=
  val_ofNat (by omega)

/-- The first half of a character is a high surrogate. -/
theorem isHighSurrogate_highSurrogate (c : CodePoint) : c.highSurrogate.isHighSurrogate := by
  rw [isHighSurrogate_iff, val_highSurrogate]
  omega

/-- The second half is a low one. -/
theorem isLowSurrogate_lowSurrogate (c : CodePoint) : c.lowSurrogate.isLowSurrogate := by
  rw [isLowSurrogate_iff, val_lowSurrogate]
  omega

/-- The two halves of a code point above U+FFFF spell it. -/
theorem joinSurrogates_halves {c : CodePoint} (h : 0x10000 ≤ c.val) :
    joinSurrogates c.highSurrogate c.lowSurrogate = c := by
  have hlt := c.isLt
  rw [joinSurrogates, val_highSurrogate, val_lowSurrogate]
  refine Fin.ext ?_
  rw [val_ofNat (by omega)]
  omega

end CodePoint

namespace Json

/-! ## Joining units -/

/-- The units in which the reader finds a code point that was written. -/
def unitsOf (c : CodePoint) : List StringUnit :=
  if c.val < 0x10000 then [⟨c, !(0x20 ≤ c.val && c.val ≤ 0x7e && c.val != 0x22 && c.val != 0x5c)⟩]
  else [⟨c.highSurrogate, true⟩, ⟨c.lowSurrogate, true⟩]

/-- A unit stays on its own unless it is high and a low one follows. -/
theorem joinUnits_cons {u : StringUnit} {us : List StringUnit}
    (h : u.code.isHighSurrogate → ∀ v ∈ us.head?, v.code.isLowSurrogate = false) :
    joinUnits (u :: us) = u.code :: joinUnits us := by
  cases us with
  | nil => rfl
  | cons v us =>
    rw [joinUnits, if_neg]
    simp only [Bool.and_eq_true, not_and, Bool.not_eq_true]
    exact fun hu => h hu.2 v rfl

/-- A high unit and a low one become a character if both are escaped. -/
theorem joinUnits_pair {u v : StringUnit} (us : List StringUnit) (hu : u.escaped) (hv : v.escaped)
    (hhigh : u.code.isHighSurrogate) (hlow : v.code.isLowSurrogate) :
    joinUnits (u :: v :: us) = CodePoint.joinSurrogates u.code v.code :: joinUnits us := by
  rw [joinUnits, if_pos (by simp [hu, hv, hhigh, hlow])]

/-- A surrogate is written as itself, escaped. -/
theorem unitsOf_of_isSurrogate {c : CodePoint} (h : c.isHighSurrogate ∨ c.isLowSurrogate) :
    unitsOf c = [⟨c, true⟩] := by
  rw [CodePoint.isHighSurrogate_iff, CodePoint.isLowSurrogate_iff] at h
  have hlt : c.val < 0x10000 := by omega
  have hle : ¬c.val ≤ 0x7e := by omega
  simp [unitsOf, hlt, hle]

theorem unitsOf_of_le {c : CodePoint} (h : 0x10000 ≤ c.val) :
    unitsOf c = [⟨c.highSurrogate, true⟩, ⟨c.lowSurrogate, true⟩] :=
  if_neg (by omega)

/-- A code point whose units start with a low surrogate is one itself. -/
theorem isLowSurrogate_of_unitsOf {c : CodePoint} {us : List StringUnit} {v : StringUnit}
    (hv : v ∈ (unitsOf c ++ us).head?) (h : v.code.isLowSurrogate) : c.isLowSurrogate := by
  unfold unitsOf at hv
  split at hv
  · obtain rfl : _ = v := Option.some.inj hv
    exact h
  · obtain rfl : _ = v := Option.some.inj hv
    have hhigh := CodePoint.isHighSurrogate_iff.1 c.isHighSurrogate_highSurrogate
    have hlow := CodePoint.isLowSurrogate_iff.1 h
    dsimp only at hlow
    omega

/-- A code point that makes no pair with what follows is joined to nothing. -/
theorem joinUnits_unitsOf {c : CodePoint} {us : List StringUnit}
    (h : c.isHighSurrogate → ∀ v ∈ us.head?, v.code.isLowSurrogate = false) :
    joinUnits (unitsOf c ++ us) = c :: joinUnits us := by
  by_cases hc : c.val < 0x10000
  · rw [unitsOf, if_pos hc, List.singleton_append]
    exact joinUnits_cons h
  · have hle : 0x10000 ≤ c.val := by omega
    rw [unitsOf_of_le hle, List.cons_append, List.singleton_append,
      joinUnits_pair us rfl rfl c.isHighSurrogate_highSurrogate c.isLowSurrogate_lowSurrogate,
      CodePoint.joinSurrogates_halves hle]

/-- The units of a text that was written are joined to the text with its pairs joined. -/
theorem joinUnits_flatMap_unitsOf : ∀ t : Text, joinUnits (t.flatMap unitsOf) = t.joinPairs
  | [] => rfl
  | [c] => by
    rw [List.flatMap_cons, joinUnits_unitsOf (by simp)]
    rfl
  | c :: d :: t => by
    by_cases hpair : (c.isHighSurrogate && d.isLowSurrogate) = true
    · have hcd := Bool.and_eq_true_iff.1 hpair
      rw [Text.joinPairs, if_pos hpair, ← joinUnits_flatMap_unitsOf t, List.flatMap_cons,
        List.flatMap_cons, unitsOf_of_isSurrogate (Or.inl hcd.1),
        unitsOf_of_isSurrogate (Or.inr hcd.2)]
      exact joinUnits_pair _ rfl rfl hcd.1 hcd.2
    · rw [Text.joinPairs, if_neg hpair, ← joinUnits_flatMap_unitsOf (d :: t), List.flatMap_cons]
      refine joinUnits_unitsOf fun hc v hv => ?_
      rw [List.flatMap_cons] at hv
      cases hlow : v.code.isLowSurrogate with
      | false => rfl
      | true => exact absurd (by rw [hc, isLowSurrogate_of_unitsOf hv hlow]; rfl) hpair

/-! ## Reading what was written -/

/-- Four digits are read as the number that they were written for. -/
theorem readUnits?_unitEscape {n : Nat} (h : n < 0x10000) (t : Text) :
    readUnits? (unitEscape n ++ t) = consUnit ⟨.ofNat n, true⟩ (readUnits? t) := by
  have h₁ := CodePoint.hexValue?_digitChar (show n / 16 / 16 / 16 % 16 < 16 by omega)
  have h₂ := CodePoint.hexValue?_digitChar (show n / 16 / 16 % 16 < 16 by omega)
  have h₃ := CodePoint.hexValue?_digitChar (show n / 16 % 16 < 16 by omega)
  have h₄ := CodePoint.hexValue?_digitChar (show n % 16 < 16 by omega)
  have hn : ((n / 16 / 16 / 16 % 16 * 16 + n / 16 / 16 % 16) * 16 + n / 16 % 16) * 16 + n % 16 =
      n := by omega
  have hhex : hexUnit? (.ofChar (Nat.digitChar (n / 16 / 16 / 16 % 16)))
      (.ofChar (Nat.digitChar (n / 16 / 16 % 16))) (.ofChar (Nat.digitChar (n / 16 % 16)))
      (.ofChar (Nat.digitChar (n % 16))) = some (.ofNat n) := by
    simp [hexUnit?, h₁, h₂, h₃, h₄, hn]
  have hbackslash : ¬backslash = quote := by decide
  have hshort : shortEscape? (CodePoint.ofChar 'u') = none := by decide
  have hu : (CodePoint.ofChar 'u').val = 0x75 := by decide
  simp only [unitEscape, Text.hex, List.nil_append, List.cons_append, readUnits?, hbackslash,
    if_false, if_true, hshort, hu, hhex]

/-- A character that needs no escape is a unit of its own. -/
theorem readUnits?_cons {c : CodePoint} (hquote : c ≠ quote) (hbackslash : c ≠ backslash)
    (hcontrol : 0x20 ≤ c.val) (t : Text) :
    readUnits? (c :: t) = consUnit ⟨c, false⟩ (readUnits? t) := by
  have hlt : ¬c.val < 0x20 := by omega
  rw [readUnits?.eq_def]
  cases t with
  | nil => simp [readUnits?, hquote, consUnit]
  | cons e t => simp [hquote, hbackslash, hlt]

/-- A code point is read in the units it was written in. -/
theorem readUnits?_writeChar (c : CodePoint) (t : Text) :
    readUnits? (writeChar c ++ t) = (unitsOf c).foldr consUnit (readUnits? t) := by
  unfold writeChar
  split
  case h_8 hquote hbackslash _ _ _ _ _ =>
    split
    · next h =>
      have hlt : c.val < 0x10000 := by omega
      have hne : c ≠ quote := fun he => hquote (by rw [he]; rfl)
      have hne' : c ≠ backslash := fun he => hbackslash (by rw [he]; rfl)
      have hplain : (0x20 ≤ c.val && c.val ≤ 0x7e && c.val != 0x22 && c.val != 0x5c) = true := by
        simpa [h.1, h.2] using ⟨hquote, hbackslash⟩
      rw [List.singleton_append, readUnits?_cons hne hne' h.1, unitsOf, if_pos hlt, hplain]
      rfl
    · next h =>
      split
      · next hlt =>
        have hescaped : (0x20 ≤ c.val && c.val ≤ 0x7e) = false := by simpa using h
        rw [readUnits?_unitEscape hlt, CodePoint.ofNat_val]
        simp [unitsOf, hlt, hescaped]
      · next hlt =>
        have hhigh := c.val_highSurrogate
        have hlow := c.val_lowSurrogate
        rw [List.append_assoc, readUnits?_unitEscape (by omega), readUnits?_unitEscape (by omega),
          CodePoint.ofNat_val, CodePoint.ofNat_val, unitsOf_of_le (by omega)]
        rfl
  -- the code points that have an escape of their own
  all_goals
    next h =>
    obtain rfl : c = .ofNat _ := by rw [← CodePoint.ofNat_val c, h]
    rfl

/-- What is written of a text is read as the units of its characters. -/
theorem readUnits?_flatMap_writeChar (rest : Text) : ∀ t : Text,
    readUnits? (t.flatMap writeChar ++ quote :: rest) = some (t.flatMap unitsOf, rest)
  | [] => by
    rw [List.flatMap_nil, List.nil_append, readUnits?.eq_def]
    cases rest <;> rfl
  | c :: t => by
    have ih := readUnits?_flatMap_writeChar rest t
    rw [List.flatMap_cons, List.append_assoc, readUnits?_writeChar, ih, List.flatMap_cons]
    induction unitsOf c with
    | nil => rfl
    | cons u us ihu => rw [List.foldr_cons, ihu]; rfl

/-- A string that was written is read with its surrogate pairs joined. -/
theorem readString?_write (t rest : Text) :
    readString? (t.flatMap writeChar ++ quote :: rest) = some (t.joinPairs, rest) := by
  rw [readString?, readUnits?_flatMap_writeChar, ← joinUnits_flatMap_unitsOf]
  rfl

/-! ## What is written -/

theorem writeChar_of_isSurrogate {c : CodePoint} (h : c.isHighSurrogate ∨ c.isLowSurrogate) :
    writeChar c = unitEscape c.val := by
  rw [CodePoint.isHighSurrogate_iff, CodePoint.isLowSurrogate_iff] at h
  unfold writeChar
  split
  case h_8 => rw [if_neg (by omega), if_pos (by omega)]
  all_goals omega

/-- A character past the first plane is written in two halves. -/
theorem writeChar_of_le {c : CodePoint} (h : 0x10000 ≤ c.val) :
    writeChar c = unitEscape c.highSurrogate.val ++ unitEscape c.lowSurrogate.val := by
  unfold writeChar
  split
  case h_8 => rw [if_neg (by omega), if_neg (by omega)]
  all_goals omega

/-- A pair and the code point that it spells are written alike. -/
theorem writeChar_joinSurrogates {c d : CodePoint} (hc : c.isHighSurrogate)
    (hd : d.isLowSurrogate) :
    writeChar (CodePoint.joinSurrogates c d) = writeChar c ++ writeChar d := by
  have hc' := CodePoint.isHighSurrogate_iff.1 hc
  have hd' := CodePoint.isLowSurrogate_iff.1 hd
  have hval : (CodePoint.joinSurrogates c d).val =
      0x10000 + c.val % 0x400 * 0x400 + d.val % 0x400 := CodePoint.val_ofNat (by omega)
  have hhigh : (CodePoint.joinSurrogates c d).highSurrogate.val = c.val := by
    rw [CodePoint.val_highSurrogate]
    omega
  have hlow : (CodePoint.joinSurrogates c d).lowSurrogate.val = d.val := by
    rw [CodePoint.val_lowSurrogate]
    omega
  rw [writeChar_of_isSurrogate (Or.inl hc), writeChar_of_isSurrogate (Or.inr hd),
    writeChar_of_le (by omega), hhigh, hlow]

/-- Joining pairs does not change what is written. -/
theorem flatMap_writeChar_joinPairs : ∀ t : Text,
    t.joinPairs.flatMap writeChar = t.flatMap writeChar
  | [] => rfl
  | [c] => rfl
  | c :: d :: t => by
    by_cases hpair : (c.isHighSurrogate && d.isLowSurrogate) = true
    · have hcd := Bool.and_eq_true_iff.1 hpair
      rw [Text.joinPairs, if_pos hpair, List.flatMap_cons, flatMap_writeChar_joinPairs t,
        writeChar_joinSurrogates hcd.1 hcd.2, List.append_assoc]
      rfl
    · rw [Text.joinPairs, if_neg hpair, List.flatMap_cons, flatMap_writeChar_joinPairs (d :: t)]
      rfl

theorem isAscii_hex (width n : Nat) : (Text.hex width n).IsAscii :=
  Text.forall_mem_hex (P := fun c => c.val < 0x80) (by decide) width n

theorem isAscii_unitEscape (n : Nat) : (unitEscape n).IsAscii := by
  rw [unitEscape, Text.isAscii_cons, Text.isAscii_cons]
  exact ⟨by decide, by decide, isAscii_hex 4 n⟩

/-- A code point is written in ASCII. -/
theorem isAscii_writeChar (c : CodePoint) : (writeChar c).IsAscii := by
  have hbackslash : backslash.val < 0x80 := by decide
  unfold writeChar
  split
  case h_8 =>
    split
    · next h =>
      rw [Text.isAscii_cons]
      exact ⟨by omega, Text.isAscii_nil⟩
    · split
      · exact isAscii_unitEscape _
      · exact Text.isAscii_append.2 ⟨isAscii_unitEscape _, isAscii_unitEscape _⟩
  all_goals
    rw [Text.isAscii_cons, Text.isAscii_cons]
    exact ⟨hbackslash, by first | omega | decide, Text.isAscii_nil⟩

/-- Strings are written in ASCII characters. -/
theorem isAscii_writeString (t : Text) : (writeString t).IsAscii := by
  have hquote : quote.val < 0x80 := by decide
  have hchars : Text.IsAscii (t.flatMap writeChar) := by
    intro c hc
    obtain ⟨d, -, hd⟩ := List.mem_flatMap.1 hc
    exact isAscii_writeChar d c hd
  simp [writeString, hquote, hchars]

end Json

end JavaText
