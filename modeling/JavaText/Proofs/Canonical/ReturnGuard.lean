import JavaText.Proofs.Canonical.Layout
import JavaText.Proofs.Store.Surgery
import JavaText.Proofs.Store.Tips

/-!
# The guard after the word `return`

Before a token other than a semicolon is written, the pieces so far are tested against the word
`return`, and where they spell it a space is added. `Draft.guard?` is the test that a token gives
rise to, with the pieces that it sees, and `Store.guards` are the tests of a run in order.

The test looks at the number of pieces first, which tells nothing unless no piece is empty. That is
so throughout a run (`Draft.Solid.writeToken`), so the test is exact. A run adds at most one space
in this way: the text only grows (`Draft.length_text_le`), and with the space it is longer than the
word. `Store.return_guard_exact` is the statement for linked nodes.
-/

namespace JavaText

namespace Draft

variable {p : Surroundings} {t : Token} {d : Draft} {pieces : Array Text} {q : Text}

/-! ## One test -/

/-- A test whether the pieces of a text spell the word `return`. -/
structure Guard where
  /-- The pieces that are tested. -/
  pieces : Array Text
  /-- Whether the last piece is a space that was just added for the same token. -/
  spaced : Bool
  deriving DecidableEq, Repr

namespace Guard

/-- What the tested pieces add up to. -/
def text (g : Guard) : Text :=
  g.pieces.toList.flatten

/-- Whether the guard adds a space. -/
def adds (g : Guard) : Bool :=
  spells g.pieces (Text.ofString "return")

/-- The pieces with the space that the guard adds. -/
def result (g : Guard) : Array Text :=
  if g.adds then g.pieces.push space else g.pieces

end Guard

/-- Whether the token before and the token itself give a space between them. -/
def separates (d : Draft) (p : Surroundings) (t : Token) : Bool :=
  (d.asksSpace && Spacing.acceptsSpaceBefore p t.kind) || Spacing.demandsSpaceBefore p t.kind

/-- The pieces with that space. -/
def separatedFrom (d : Draft) (p : Surroundings) (t : Token) : Array Text :=
  if d.separates p t then d.pieces.push space else d.pieces

/-- The test that a token gives rise to: none if it does not show or is a semicolon. -/
def guard? (d : Draft) (p : Surroundings) (t : Token) : Option Guard :=
  if t.isVisible && t.rawText != Text.ofString ";" then
    some { pieces := d.separatedFrom p t, spaced := d.separates p t }
  else none

/-- The pieces before the text of a token, the space of the guard included. -/
def opened (d : Draft) (p : Surroundings) (t : Token) : Array Text :=
  match d.guard? p t with
  | some g => g.result
  | none => d.separatedFrom p t

/-- A token that shows is written after what its guard leaves, and no other token is written. -/
theorem writeToken_eq_opened (d : Draft) (p : Surroundings) (t : Token) :
    d.writeToken p t = if t.isVisible then
      { pieces := if Spacing.endsLine p t.kind
          then ((d.opened p t).push t.rawText).push lineBreak else (d.opened p t).push t.rawText
        asksSpace := Spacing.asksSpaceAfter p t.kind } else d := by
  by_cases ht : t.isVisible = true
  · have hopened : d.opened p t =
        if t.rawText != Text.ofString ";" && spells (d.separatedFrom p t) (Text.ofString "return")
        then (d.separatedFrom p t).push space else d.separatedFrom p t := by
      cases hword : t.rawText != Text.ofString ";" with
      | false => simp [opened, guard?, hword]
      | true =>
        simp only [opened, guard?, ht, hword, Bool.true_and, if_true]
        rfl
    rw [hopened, writeToken, if_pos ht, if_pos ht]
    rfl
  · rw [writeToken, if_neg ht, if_neg ht]

/-- The test is made for a visible token that is no semicolon, with what was written before it. -/
theorem guard?_eq_some {g : Guard} : d.guard? p t = some g ↔
    (t.isVisible = true ∧ t.rawText ≠ Text.ofString ";") ∧
      g = { pieces := d.separatedFrom p t, spaced := d.separates p t } := by
  rw [guard?, Option.ite_none_right_eq_some, Bool.and_eq_true, bne_iff_ne, Option.some.injEq,
    eq_comm (a := g)]

/-! ## No piece is empty -/

/-- None of the pieces is empty. -/
def Solid (pieces : Array Text) : Prop :=
  ∀ q ∈ pieces, q ≠ []

theorem solid_empty : Solid empty.pieces := by
  simp [Solid, empty]

/-- A piece that is not empty may be pushed. -/
theorem Solid.push (h : Solid pieces) (hq : q ≠ []) : Solid (pieces.push q) := by
  intro r hr
  rcases Array.mem_push.1 hr with hr | rfl
  · exact h r hr
  · exact hq

theorem Solid.ite_push (h : Solid pieces) (hq : q ≠ []) (c : Bool) :
    Solid (if c then pieces.push q else pieces) := by
  split
  · exact h.push hq
  · exact h

theorem Solid.separatedFrom (h : Solid d.pieces) : Solid (d.separatedFrom p t) :=
  h.ite_push (by decide) _

theorem Solid.opened (h : Solid d.pieces) : Solid (d.opened p t) := by
  rw [Draft.opened]
  split
  · next g hg =>
    obtain ⟨-, rfl⟩ := guard?_eq_some.1 hg
    exact h.separatedFrom.ite_push (by decide) _
  · exact h.separatedFrom

/-- Writing a token leaves no empty piece, since a token without text does not show. -/
theorem Solid.writeToken (h : Solid d.pieces) : Solid (d.writeToken p t).pieces := by
  rw [writeToken_eq_opened]
  split
  · next ht =>
    have hword : t.rawText ≠ [] := by
      intro hnil
      simp [Token.isVisible, hnil] at ht
    exact (h.opened.push hword).ite_push (by decide) _
  · exact h

namespace Guard

variable {g : Guard}

/-- Where no piece is empty, counting the pieces first makes no difference. -/
theorem adds_eq (h : Solid g.pieces) : g.adds = (g.text == Text.ofString "return") := by
  rw [Bool.eq_iff_iff, beq_iff_eq]
  exact spells_iff h _

/-- A space is added to the word `return` only. -/
theorem text_of_adds (h : g.adds = true) : g.text = Text.ofString "return" :=
  beq_iff_eq.1 (Bool.and_eq_true_iff.1 h).2

/-- The guard adds no space after one that was just added, since the word has no space in it. -/
theorem adds_of_spaced (hg : d.guard? p t = some g) (hspaced : g.spaced = true) :
    g.adds = false := by
  obtain ⟨-, rfl⟩ := guard?_eq_some.1 hg
  have hseparates : d.separates p t = true := hspaced
  rw [Bool.eq_false_iff]
  intro hadds
  have htext := text_of_adds hadds
  rw [text, separatedFrom, if_pos hseparates, Array.toList_push, List.flatten_append,
    List.flatten_singleton] at htext
  exact append_space_ne_return _ htext

end Guard

/-! ## The text only grows -/

theorem prefix_ite_push (pieces : Array Text) (q : Text) (c : Bool) :
    pieces.toList <+: (if c then pieces.push q else pieces).toList := by
  split
  · rw [Array.toList_push]
    exact List.prefix_append _ _
  · exact List.prefix_rfl

theorem prefix_separatedFrom : d.pieces.toList <+: (d.separatedFrom p t).toList :=
  prefix_ite_push _ _ _

/-- To open a token takes no piece away. -/
theorem prefix_opened : d.pieces.toList <+: (d.opened p t).toList := by
  rw [opened]
  split
  · next g hg =>
    obtain ⟨-, rfl⟩ := guard?_eq_some.1 hg
    exact prefix_separatedFrom.trans (prefix_ite_push _ _ _)
  · exact prefix_separatedFrom

/-- A token that shows leaves what is before it, and its text follows. -/
theorem prefix_writeToken (ht : t.isVisible = true) :
    (d.opened p t).toList ++ [t.rawText] <+: (d.writeToken p t).pieces.toList := by
  rw [writeToken_eq_opened, if_pos ht, ← Array.toList_push]
  exact prefix_ite_push _ _ _

/-- The text of a token follows what its guard leaves. -/
theorem prefix_of_guard? {g : Guard} (hg : d.guard? p t = some g) :
    g.result.toList ++ [t.rawText] <+: (d.writeToken p t).pieces.toList := by
  have hprefix := prefix_writeToken (d := d) (p := p) (guard?_eq_some.1 hg).1.1
  rwa [opened, hg] at hprefix

theorem length_flatten_le {ps qs : List Text} (h : ps <+: qs) :
    ps.flatten.length ≤ qs.flatten.length := by
  obtain ⟨rest, rfl⟩ := h
  rw [List.flatten_append, List.length_append]
  exact Nat.le_add_right _ _

/-- A token makes no text shorter. -/
theorem length_text_le : d.text.length ≤ (d.writeToken p t).text.length := by
  by_cases ht : t.isVisible = true
  · exact length_flatten_le ((prefix_opened.trans (List.prefix_append _ _)).trans
      (prefix_writeToken ht))
  · exact Nat.le_of_eq (by rw [writeToken_eq_opened, if_neg ht])

/-- The text is longer than the word `return`, so that no guard adds a space any more. -/
def IsPast (d : Draft) : Prop :=
  (Text.ofString "return").length < d.text.length

theorem IsPast.writeToken (h : d.IsPast) : (d.writeToken p t).IsPast :=
  Nat.lt_of_lt_of_le h length_text_le

/-- Past the word no test adds a space. -/
theorem IsPast.adds {g : Draft.Guard} (h : d.IsPast) (hg : d.guard? p t = some g) :
    g.adds = false := by
  obtain ⟨-, rfl⟩ := guard?_eq_some.1 hg
  rw [Bool.eq_false_iff]
  intro hadds
  have hle : d.text.length ≤ (d.separatedFrom p t).toList.flatten.length :=
    length_flatten_le prefix_separatedFrom
  rw [show (d.separatedFrom p t).toList.flatten = _ from Guard.text_of_adds hadds] at hle
  exact Nat.not_lt_of_le hle h

/-- With the space of the guard the text is longer than the word. -/
theorem isPast_of_adds {g : Guard} (hg : d.guard? p t = some g) (hadds : g.adds = true) :
    (d.writeToken p t).IsPast := by
  have hlength : (g.text ++ space).length ≤ (d.writeToken p t).text.length := by
    have hle := length_flatten_le ((List.prefix_append _ _).trans (prefix_of_guard? hg))
    rwa [Guard.result, if_pos hadds, Array.toList_push, List.flatten_append,
      List.flatten_singleton] at hle
  rw [Guard.text_of_adds hadds] at hlength
  exact Nat.lt_of_lt_of_le (by decide) hlength

end Draft

namespace Store

variable {s : Store} {r : Ref} {d : Draft}

/-! ## The tests of a run -/

/-- The test before a node without children is written. -/
def guard? (s : Store) (d : Draft) (l : Ref) : Option Draft.Guard :=
  d.guard? (s.surroundings l) (s.tokenAt l)

/-- The tests while nodes without children are written one after another. -/
def guards (s : Store) : Draft → List Ref → List Draft.Guard
  | _, [] => []
  | d, l :: ls => (s.guard? d l).toList ++ s.guards (s.writeTip d l) ls

/-- Every test of a run is that of one of the nodes, after the nodes before it are written. -/
theorem mem_guards {g : Draft.Guard} : ∀ {ls : List Ref} {d : Draft}, g ∈ s.guards d ls ↔
    ∃ before l after, ls = before ++ l :: after ∧ s.guard? (before.foldl s.writeTip d) l = some g
  | [], d => by simp [guards]
  | l :: ls, d => by
    rw [guards, List.mem_append, Option.mem_toList, mem_guards]
    constructor
    · rintro (hg | ⟨before, l', after, rfl, hg⟩)
      · exact ⟨[], l, ls, rfl, hg⟩
      · exact ⟨l :: before, l', after, rfl, hg⟩
    · rintro ⟨before, l', after, hls, hg⟩
      cases before with
      | nil =>
        obtain ⟨rfl, rfl⟩ := List.cons.inj hls
        exact Or.inl hg
      | cons _ before =>
        obtain ⟨rfl, rfl⟩ := List.cons.inj hls
        exact Or.inr ⟨before, l', after, rfl, hg⟩

/-- No run makes an empty piece. -/
theorem solid_foldl_writeTip : ∀ (ls : List Ref) {d : Draft}, Draft.Solid d.pieces →
    Draft.Solid (ls.foldl s.writeTip d).pieces
  | [], _, h => h
  | _ :: ls, _, h => solid_foldl_writeTip ls h.writeToken

/-- No guard sees an empty piece. -/
theorem solid_of_mem_guards {g : Draft.Guard} {ls : List Ref} (hd : Draft.Solid d.pieces)
    (hg : g ∈ s.guards d ls) : Draft.Solid g.pieces := by
  obtain ⟨before, l, after, -, hg⟩ := mem_guards.1 hg
  obtain ⟨-, rfl⟩ := Draft.guard?_eq_some.1 hg
  exact (solid_foldl_writeTip before hd).separatedFrom

/-- Past the word a run adds no space. -/
theorem filter_adds_of_isPast : ∀ (ls : List Ref) {d : Draft}, d.IsPast →
    (s.guards d ls).filter Draft.Guard.adds = []
  | [], _, _ => rfl
  | l :: ls, d, h => by
    have hrest := filter_adds_of_isPast ls (d := s.writeTip d l) h.writeToken
    rw [guards, List.filter_append, hrest, List.append_nil, List.filter_eq_nil_iff]
    intro g hg
    rw [h.adds (Option.mem_toList.1 hg)]
    exact Bool.false_ne_true

/-- The guard adds at most one space in a run: the text is past the word once it did. -/
theorem length_filter_adds_le : ∀ (ls : List Ref) (d : Draft),
    ((s.guards d ls).filter Draft.Guard.adds).length ≤ 1
  | [], _ => Nat.zero_le _
  | l :: ls, d => by
    have ih := length_filter_adds_le ls (s.writeTip d l)
    rw [guards]
    cases hg : s.guard? d l with
    | none => exact ih
    | some g =>
      cases hadds : g.adds with
      | false =>
        rwa [Option.toList_some, List.singleton_append, List.filter_cons_of_neg (by simp [hadds])]
      | true =>
        have hpast : (s.writeTip d l).IsPast := Draft.isPast_of_adds hg hadds
        rw [Option.toList_some, List.singleton_append, List.filter_cons_of_pos hadds,
          filter_adds_of_isPast ls hpast]
        exact Nat.le_refl 1

/-- The canonical text is written node by node, and what a test leaves stands before the text of its
node. In all tests of that run no piece is empty, so that the guard adds a space just if the pieces
add up to the word `return`. It does so at most once, and never where a space was just added for the
same token. -/
theorem return_guard_exact (h : s.EndsBelow r) :
    s.canonical r = .ok ((s.tips r).foldl s.writeTip .empty).text ∧
    (∀ d l g, s.guard? d l = some g →
      g.result.toList ++ [(s.tokenAt l).rawText] <+: (s.writeTip d l).pieces.toList) ∧
    (∀ g ∈ s.guards .empty (s.tips r), (∀ q ∈ g.pieces, q ≠ []) ∧
      g.adds = (g.text == Text.ofString "return") ∧ (g.spaced = true → g.adds = false)) ∧
    ((s.guards .empty (s.tips r)).filter Draft.Guard.adds).length ≤ 1 := by
  refine ⟨h.canonical_tips, fun _ _ _ => Draft.prefix_of_guard?, fun g hg => ?_,
    length_filter_adds_le _ _⟩
  have hsolid := solid_of_mem_guards Draft.solid_empty hg
  refine ⟨hsolid, Draft.Guard.adds_eq hsolid, ?_⟩
  obtain ⟨_, _, _, -, hg⟩ := mem_guards.1 hg
  exact Draft.Guard.adds_of_spaced hg

/-- The word `return` in two pieces, neither of which asks for a space, and two names. -/
def pieced : List Surgery :=
  [.create .construct (some (.construct .blockStatement)) none none [],
    .create .token (some (.token (.symbol .exclamation))) (some "re") (some 0) [],
    .create .token (some (.token (.symbol .exclamation))) (some "turn") (some 0) [],
    .create .token (some (.token .identifier)) (some "x") (some 0) [],
    .create .token (some (.token .identifier)) (some "y") (some 0) []]

/-- Before the first name the guard adds a space, and before the second one there is one already. -/
theorem return_guard_exact_pieced :
    ∃ s, empty.applyAll pieced = (s, .ok ()) ∧ s.EndsBelow 0 ∧ s.canonical 0 = .ok "return x y" ∧
      (s.guards .empty (s.tips 0)).map Draft.Guard.adds = [false, false, true, false] ∧
      (s.guards .empty (s.tips 0)).map Draft.Guard.spaced = [false, false, false, true] ∧
      (∀ g ∈ s.guards .empty (s.tips 0), (∀ q ∈ g.pieces, q ≠ []) ∧
        g.adds = (g.text == Text.ofString "return") ∧ (g.spaced = true → g.adds = false)) ∧
      ((s.guards .empty (s.tips 0)).filter Draft.Guard.adds).length ≤ 1 := by
  obtain ⟨s, hs, -, hforest⟩ := @isForest_of_grows pieced (by decide)
  obtain rfl : (empty.applyAll pieced).1 = s := congrArg Prod.fst hs
  obtain ⟨-, -, hexact, honce⟩ := return_guard_exact (hforest.endsBelow 0)
  exact ⟨_, hs, hforest.endsBelow 0, by decide, by decide, by decide, hexact, honce⟩

end Store

end JavaText
