import JavaText.Lexeme
import JavaText.Proofs.Regex.Membership
import JavaText.Proofs.Tree.Document

/-!
# The kind of a token from its text

A text is classified in two steps (`TokenKind.ofText?_eq`). If it is the text that all tokens of a
kind have, it is of that kind. Otherwise the languages of the shapes decide: the text is of the kind
of the first one that it belongs to as a whole, and no token if it belongs to none.
-/

namespace JavaText

namespace TokenKind

/-- A kind is found by the text that all its tokens have, and only by this text. -/
theorem lookup_fixedTexts {text : Text} {k : TokenKind} :
    fixedTexts.lookup text = some k ↔ k.fixedText? = some text := by
  constructor
  · intro h
    have hmem := mem_of_lookup h
    simp only [fixedTexts, List.mem_append, List.mem_map, Prod.mk.injEq] at hmem
    rcases hmem with ⟨s, -, rfl, rfl⟩ | ⟨w, -, rfl, rfl⟩
    · rfl
    · rfl
  · intro h
    have hall : all.all (fun k => k.fixedText?.all fun t => fixedTexts.lookup t == some k) =
        true := by decide +kernel
    have hk := List.all_eq_true.1 hall k k.mem_all
    rw [h, Option.all_some] at hk
    exact beq_iff_eq.1 hk

theorem lookup_fixedTexts_eq_none {text : Text} :
    fixedTexts.lookup text = none ↔ ∀ k : TokenKind, k.fixedText? ≠ some text := by
  simp only [Option.eq_none_iff_forall_ne_some, ne_eq, lookup_fixedTexts]

end TokenKind

namespace Lexeme

/-- The kind of the first of some shapes that a text has. -/
def first? (shapes : List (Regex × TokenKind)) (text : Text) : Option TokenKind :=
  (shapes.find? fun shape => shape.1.accepts text).map Prod.snd

/-- Whether a kind is that of the first of some shapes whose language a text belongs to. -/
def IsFirst (shapes : List (Regex × TokenKind)) (text : Text) (k : TokenKind) : Prop :=
  ∃ before r after, shapes = before ++ (r, k) :: after ∧ r.Matches text ∧
    ∀ shape ∈ before, ¬shape.1.Matches text

variable {shapes : List (Regex × TokenKind)} {text : Text}

theorem first?_eq_some {k : TokenKind} : first? shapes text = some k ↔ IsFirst shapes text k := by
  simp only [first?, Option.map_eq_some_iff, List.find?_eq_some_iff_append, Regex.accepts_iff,
    Bool.not_eq_true', ← Bool.not_eq_true]
  constructor
  · rintro ⟨⟨r, k⟩, ⟨hr, before, after, rfl, hbefore⟩, rfl⟩
    exact ⟨before, r, after, rfl, hr, hbefore⟩
  · rintro ⟨before, r, after, rfl, hr, hbefore⟩
    exact ⟨(r, k), ⟨hr, before, after, rfl, hbefore⟩, rfl⟩

theorem first?_eq_none : first? shapes text = none ↔ ∀ shape ∈ shapes, ¬shape.1.Matches text := by
  simp [first?, Regex.accepts_iff]

end Lexeme

namespace TokenKind

theorem ofText?_eq_first? {text : Text} (h : ∀ k : TokenKind, k.fixedText? ≠ some text) :
    ofText? text = Lexeme.first? Lexeme.shapes text := by
  rw [ofText?, lookup_fixedTexts_eq_none.2 h]
  rfl

theorem ofText?_of_fixedText? {text : Text} {k : TokenKind} (h : k.fixedText? = some text) :
    ofText? text = some k := by
  rw [ofText?, lookup_fixedTexts.2 h]

/-- A text that all tokens of a kind have is of that kind. Any other text is of the kind of the
first shape whose language it belongs to, and of no kind just if it belongs to none of the
languages. -/
theorem ofText?_eq (text : Text) :
    (∀ k : TokenKind, k.fixedText? = some text → ofText? text = some k) ∧
    ((∀ k : TokenKind, k.fixedText? ≠ some text) →
      ∀ k, ofText? text = some k ↔ Lexeme.IsFirst Lexeme.shapes text k) ∧
    (ofText? text = none ↔ (∀ k : TokenKind, k.fixedText? ≠ some text) ∧
      ∀ shape ∈ Lexeme.shapes, ¬shape.1.Matches text) := by
  refine ⟨fun k => ofText?_of_fixedText?, fun h k => ?_, ?_⟩
  · rw [ofText?_eq_first? h, Lexeme.first?_eq_some]
  · constructor
    · intro hnone
      have h : ∀ k : TokenKind, k.fixedText? ≠ some text := by
        intro k hk
        rw [ofText?_of_fixedText? hk] at hnone
        cases hnone
      rw [ofText?_eq_first? h, Lexeme.first?_eq_none] at hnone
      exact ⟨h, hnone⟩
    · rintro ⟨h, hshapes⟩
      rw [ofText?_eq_first? h, Lexeme.first?_eq_none]
      exact hshapes

/-- A contextual keyword, a number that only its suffix tells from a double, and a number that is
none because an exponent takes no underscore. -/
theorem ofText?_eq_near_numbers :
    (keyword .recordKw).fixedText? = some (Text.ofString "record") ∧
    ofText? (Text.ofString "record") = some (keyword .recordKw) ∧
    Lexeme.IsFirst Lexeme.shapes (Text.ofString "1_0.e-5F") (literal .float) ∧
    ofText? (Text.ofString "1_0.e-5F") = some (literal .float) ∧
    (∀ shape ∈ Lexeme.shapes, ¬shape.1.Matches (Text.ofString "1.0e1_0")) ∧
    ofText? (Text.ofString "1.0e1_0") = none := by
  have hfirst : Lexeme.IsFirst Lexeme.shapes (Text.ofString "1_0.e-5F") (literal .float) := by
    refine ⟨Lexeme.shapes.take 7, Lexeme.float, Lexeme.shapes.drop 8, rfl, ?_, ?_⟩
    · rw [← Regex.accepts_iff]
      decide +kernel
    · simp only [← Regex.accepts_iff]
      decide +kernel
  have hnone : ∀ shape ∈ Lexeme.shapes, ¬shape.1.Matches (Text.ofString "1.0e1_0") := by
    simp only [← Regex.accepts_iff]
    decide +kernel
  have hfloat : fixedTexts.lookup (Text.ofString "1_0.e-5F") = none := by decide +kernel
  have hbroken : fixedTexts.lookup (Text.ofString "1.0e1_0") = none := by decide +kernel
  exact ⟨rfl, (ofText?_eq _).1 _ rfl, hfirst,
    ((ofText?_eq _).2.1 (lookup_fixedTexts_eq_none.1 hfloat) _).2 hfirst, hnone,
    (ofText?_eq _).2.2.2 ⟨lookup_fixedTexts_eq_none.1 hbroken, hnone⟩⟩

end TokenKind

end JavaText
