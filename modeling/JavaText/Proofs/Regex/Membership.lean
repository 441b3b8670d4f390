import JavaText.Regex

/-!
# Deciding membership in a language

`Regex.accepts` reads a text from left to right and keeps the expressions that the rest may still
match. It decides the language of an expression (`Regex.accepts_iff`): the expressions that it
keeps after a character are those one of which the rest has to match (`Regex.matches_cons_iff`),
and at the end it is left to see whether one of them matches the empty text
(`Regex.nullable_iff`).

Repetition is where a matcher that goes back could go wrong. A text that is matched by a
repetition and is not empty can always be cut so that the first part is not empty
(`Regex.matches_star_cons`), so each round reads a character.
-/

namespace JavaText

namespace Regex

variable {r s : Regex} {a : CharSet} {c : CodePoint} {t u : Text}

/-! ## The rules turned around -/

theorem matches_empty : Matches .empty t ↔ t = [] := by
  constructor
  · rintro ⟨⟩
    rfl
  · rintro rfl
    exact .empty

theorem matches_chars : Matches (.chars a) t ↔ ∃ c, a.contains c = true ∧ t = [c] := by
  constructor
  · rintro ⟨⟩
    exact ⟨_, ‹_›, rfl⟩
  · rintro ⟨c, hc, rfl⟩
    exact .chars hc

theorem matches_seq : Matches (.seq r s) t ↔ ∃ u v, t = u ++ v ∧ Matches r u ∧ Matches s v := by
  constructor
  · rintro ⟨⟩
    exact ⟨_, _, rfl, ‹_›, ‹_›⟩
  · rintro ⟨u, v, rfl, hu, hv⟩
    exact .seq hu hv

theorem matches_alt : Matches (.alt r s) t ↔ Matches r t ∨ Matches s t := by
  constructor
  · rintro ⟨⟩
    · exact Or.inl ‹_›
    · exact Or.inr ‹_›
  · rintro (h | h)
    · exact .left h
    · exact .right h

theorem matches_lit : ∀ {u t : Text}, Matches (lit u) t ↔ t = u
  | [], t => matches_empty
  | [c], t => by
    rw [lit, matches_chars]
    constructor
    · rintro ⟨d, hd, rfl⟩
      rw [beq_iff_eq.1 hd]
    · rintro rfl
      exact ⟨c, beq_iff_eq.2 rfl, rfl⟩
  | c :: d :: u, t => by
    change Matches (.seq (.chars (.single c)) (lit (d :: u))) t ↔ _
    rw [matches_seq]
    constructor
    · rintro ⟨v, w, rfl, hv, hw⟩
      obtain ⟨e, he, rfl⟩ := matches_chars.1 hv
      rw [matches_lit.1 hw, beq_iff_eq.1 he, List.singleton_append]
    · rintro rfl
      exact ⟨[c], d :: u, rfl, .chars (beq_iff_eq.2 rfl), matches_lit.2 rfl⟩

/-! ## The empty text -/

theorem matches_seq_nil : Matches (.seq r s) [] ↔ Matches r [] ∧ Matches s [] := by
  rw [matches_seq]
  constructor
  · rintro ⟨u, v, huv, hu, hv⟩
    obtain ⟨rfl, rfl⟩ := List.append_eq_nil_iff.1 huv.symm
    exact ⟨hu, hv⟩
  · rintro ⟨hr, hs⟩
    exact ⟨[], [], rfl, hr, hs⟩

/-- Whether the empty text belongs to a language can be seen from the expression. -/
theorem nullable_iff : ∀ {r : Regex}, r.nullable = true ↔ Matches r []
  | .empty => by simp [nullable, matches_empty]
  | .chars a => by simp [nullable, matches_chars]
  | .seq r s => by
    rw [nullable, Bool.and_eq_true, nullable_iff, nullable_iff, matches_seq_nil]
  | .alt r s => by
    rw [nullable, Bool.or_eq_true, nullable_iff, nullable_iff, matches_alt]
  | .star r => iff_of_true rfl .stop

/-! ## The first character -/

/-- The first character of a sequence is read by its first part, or by its second part after an
empty first one. -/
theorem matches_seq_cons : Matches (.seq r s) (c :: t) ↔
    (∃ u v, t = u ++ v ∧ Matches r (c :: u) ∧ Matches s v) ∨
      Matches r [] ∧ Matches s (c :: t) := by
  rw [matches_seq]
  constructor
  · rintro ⟨u, v, huv, hu, hv⟩
    cases u with
    | nil => exact Or.inr ⟨hu, huv ▸ hv⟩
    | cons d u =>
      obtain ⟨rfl, rfl⟩ := List.cons.inj huv
      exact Or.inl ⟨u, v, rfl, hu, hv⟩
  · rintro (⟨u, v, rfl, hu, hv⟩ | ⟨hr, hs⟩)
    · exact ⟨c :: u, v, rfl, hu, hv⟩
    · exact ⟨[], c :: t, rfl, hr, hs⟩

/-- The first character of a repetition is read by a round that is not empty; the rounds before it
are left out. -/
theorem matches_star_cons : Matches (.star r) (c :: t) ↔
    ∃ u v, t = u ++ v ∧ Matches r (c :: u) ∧ Matches (.star r) v := by
  constructor
  · intro h
    generalize hx : Regex.star r = x, hw : c :: t = w at h
    induction h with
    | stop => cases hw
    | @more _ u v hu hv _ ih =>
      obtain rfl := Regex.star.inj hx
      cases u with
      | nil => exact ih rfl hw
      | cons d u =>
        obtain ⟨rfl, rfl⟩ := List.cons.inj hw
        exact ⟨u, v, rfl, hu, hv⟩
    | empty | chars | seq | left | right => cases hx
  · rintro ⟨u, v, rfl, hu, hv⟩
    exact .more hu hv

theorem matches_followedBy : Matches (followedBy r s) t ↔ Matches (.seq r s) t := by
  cases r with
  | empty =>
    change Matches s t ↔ _
    rw [matches_seq]
    constructor
    · intro h
      exact ⟨[], t, rfl, .empty, h⟩
    · rintro ⟨u, v, rfl, hu, hv⟩
      rwa [matches_empty.1 hu]
  | chars | seq | alt | star => rfl

/-- Expressions with the same second part match a text whose start one of them matches and whose
rest the second part matches. -/
theorem exists_mem_map_followedBy {rs : List Regex} :
    (∃ x ∈ rs.map (followedBy · s), Matches x t) ↔
      ∃ u v, t = u ++ v ∧ (∃ x ∈ rs, Matches x u) ∧ Matches s v := by
  constructor
  · rintro ⟨x, hx, ht⟩
    obtain ⟨r, hr, rfl⟩ := List.mem_map.1 hx
    obtain ⟨u, v, rfl, hu, hv⟩ := matches_seq.1 (matches_followedBy.1 ht)
    exact ⟨u, v, rfl, ⟨r, hr, hu⟩, hv⟩
  · rintro ⟨u, v, rfl, ⟨r, hr, hu⟩, hv⟩
    exact ⟨_, List.mem_map_of_mem hr, matches_followedBy.2 (.seq hu hv)⟩

/-- A text matches an expression just if what follows its first character matches one of the
expressions that are kept after that character. -/
theorem matches_cons_iff : ∀ {r : Regex} {t : Text},
    Matches r (c :: t) ↔ ∃ x ∈ r.after c, Matches x t
  | .empty, t => by simp [after, matches_empty]
  | .chars a, t => by
    rw [after, matches_chars]
    constructor
    · rintro ⟨d, hd, hcd⟩
      obtain ⟨rfl, rfl⟩ := List.cons.inj hcd
      exact ⟨.empty, by simp [hd], .empty⟩
    · rintro ⟨x, hx, ht⟩
      obtain ⟨hc, rfl⟩ : a.contains c = true ∧ x = .empty := by simpa using hx
      exact ⟨c, hc, by rw [matches_empty.1 ht]⟩
  | .seq r s, t => by
    have hfirst : (∃ x ∈ (r.after c).map (followedBy · s), Matches x t) ↔
        ∃ u v, t = u ++ v ∧ Matches r (c :: u) ∧ Matches s v := by
      simp only [exists_mem_map_followedBy, ← matches_cons_iff]
    have hsecond : (∃ x ∈ (if r.nullable then s.after c else []), Matches x t) ↔
        Matches r [] ∧ Matches s (c :: t) := by
      rw [← nullable_iff, matches_cons_iff]
      by_cases h : r.nullable = true <;> simp [h]
    simp only [after, List.mem_append, or_and_right, exists_or, hfirst, hsecond, matches_seq_cons]
  | .alt r s, t => by
    simp only [after, List.mem_append, or_and_right, exists_or, ← matches_cons_iff, matches_alt]
  | .star r, t => by
    rw [matches_star_cons, after]
    simp only [exists_mem_map_followedBy, ← matches_cons_iff]

/-! ## Whole texts -/

theorem acceptsAny_iff : ∀ {t : Text} {rs : List Regex},
    acceptsAny rs t = true ↔ ∃ r ∈ rs, Matches r t
  | [], rs => by simp [acceptsAny, nullable_iff]
  | c :: t, rs => by
    rw [acceptsAny, acceptsAny_iff]
    simp only [List.mem_eraseDups, List.mem_flatMap, matches_cons_iff]
    constructor
    · rintro ⟨x, ⟨r, hr, hx⟩, ht⟩
      exact ⟨r, hr, x, hx, ht⟩
    · rintro ⟨r, hr, x, hx, ht⟩
      exact ⟨x, ⟨r, hr, hx⟩, ht⟩

/-- A text is accepted just if it belongs to the language of the expression. -/
theorem accepts_iff : r.accepts t = true ↔ Matches r t := by
  simp [accepts, acceptsAny_iff]

end Regex

end JavaText
