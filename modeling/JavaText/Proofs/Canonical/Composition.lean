import JavaText.Proofs.Canonical.Moved
import JavaText.Proofs.Store.Tips

/-!
# The canonical text of a part within the text of the whole

When the walk over a tree comes to a node, some text is written already and the last token may ask
for a space. What the node adds to the text is its own canonical text but for two spaces. One may
stand before it, because the token before asks for it. And the word `return` at the very start of a
text is kept apart from what follows, which is the start of the text of the node on its own but not
of the text of the whole; so a space that stands there for no other reason is left out.

`plainText` is the text of leaves without the second rule. The layout of leaves after some chunks is
the plain text unless the second rule is alone in asking for a space somewhere (`ReturnAlone`),
which happens once at most, and never after a text that is no beginning of the word. A node is met
with the draft that `Store.Enters` gives, and `Store.canonical_in_context` is the statement for
linked nodes.
-/

namespace JavaText

open Relation

/-! ## Plain text -/

namespace Leaf

/-- A space stands before a leaf for its own sake: the leaf before asks for one and the leaf accepts
it, or the leaf demands one. -/
def IsApart (asked : Bool) (l : Leaf) : Prop :=
  (asked = true ∧ l.AcceptsSpaceBefore) ∨ l.DemandsSpaceBefore

instance (asked : Bool) (l : Leaf) : Decidable (l.IsApart asked) :=
  inferInstanceAs (Decidable (_ ∨ _))

end Leaf

/-- The text of leaves in which the word `return` is a word as any other. -/
def plainText (asked : Bool) : List Leaf → Text
  | [] => []
  | l :: ls =>
    (if l.IsApart asked then Draft.space else []) ++ l.text
      ++ (if l.EndsLine then Draft.lineBreak else []) ++ plainText (decide l.AsksSpaceAfter) ls

/-- The space that is asked for before leaves and that the first of them does not demand anyway. -/
def askedSpace (asked : Bool) (ls : List Leaf) : Text :=
  if asked = true ∧ ∃ l ∈ ls.head?, l.AcceptsSpaceBefore ∧ ¬l.DemandsSpaceBefore
  then Draft.space else []

/-- That a space is asked for before leaves bears on the first of them only. -/
theorem plainText_eq (asked : Bool) (ls : List Leaf) :
    plainText asked ls = askedSpace asked ls ++ plainText false ls := by
  cases ls with
  | nil => simp [plainText, askedSpace]
  | cons l ls =>
    have hspace : (if l.IsApart asked then Draft.space else []) =
        askedSpace asked (l :: ls) ++ if l.IsApart false then Draft.space else [] := by
      by_cases hdemands : l.DemandsSpaceBefore <;> simp [Leaf.IsApart, askedSpace, hdemands]
    rw [plainText, plainText, hspace]
    simp only [List.append_assoc]

/-! ## Layouts and plain text -/

/-- Whether the last of some chunks asks for a space. -/
def lastAsks (cs : List Chunk) : Bool :=
  decide (∃ c ∈ cs.getLast?, c.leaf.AsksSpaceAfter)

@[simp] theorem lastAsks_following (cs : List Chunk) (l : Leaf) :
    lastAsks (cs ++ [Chunk.following cs l]) = decide l.AsksSpaceAfter := by
  simp [lastAsks, Chunk.following]

theorem layout_append : ∀ (before after : List Leaf) (cs : List Chunk),
    layout cs (before ++ after) = layout cs before ++ layout (cs ++ layout cs before) after
  | [], after, cs => by simp [layout]
  | l :: before, after, cs => by
    rw [List.cons_append, layout, layout, layout_append before after, List.cons_append,
      List.append_assoc, List.singleton_append]

theorem plainText_append : ∀ (before after : List Leaf) (cs : List Chunk),
    plainText (lastAsks cs) (before ++ after) =
      plainText (lastAsks cs) before ++ plainText (lastAsks (cs ++ layout cs before)) after
  | [], after, cs => by simp [layout, plainText]
  | l :: before, after, cs => by
    have ih := plainText_append before after (cs ++ [Chunk.following cs l])
    rw [lastAsks_following, List.append_assoc, List.singleton_append] at ih
    rw [List.cons_append, plainText, plainText, ih, layout]
    simp only [List.append_assoc]

/-- The chunks spell the word `return`, and that is the only reason for a space before the leaf that
follows them. -/
def ReturnOnly (cs : List Chunk) (l : Leaf) : Prop :=
  cs.flatMap Chunk.text = Text.ofString "return" ∧ l.text ≠ Text.ofString ";" ∧
    ¬l.IsApart (lastAsks cs)

/-- Before one of the leaves that follow some chunks, the word `return` is the only reason for a
space. -/
def ReturnAlone (cs : List Chunk) (ls : List Leaf) : Prop :=
  ∃ before l after, ls = before ++ l :: after ∧ ReturnOnly (cs ++ layout cs before) l

theorem needsSpace_iff {cs : List Chunk} {l : Leaf} :
    NeedsSpace cs l ↔ l.IsApart (lastAsks cs) ∨ ReturnOnly cs l := by
  simp only [NeedsSpace, ReturnOnly, Leaf.IsApart, lastAsks, decide_eq_true_eq]
  grind

theorem text_following (cs : List Chunk) (l : Leaf) :
    (Chunk.following cs l).text = (if NeedsSpace cs l then Draft.space else []) ++ l.text
      ++ (if l.EndsLine then Draft.lineBreak else []) := rfl

/-- Unless the word `return` is alone in asking for a space, leaves are laid out in plain text. -/
theorem layout_eq_plainText : ∀ (ls : List Leaf) (cs : List Chunk), ¬ReturnAlone cs ls →
    (layout cs ls).flatMap Chunk.text = plainText (lastAsks cs) ls
  | [], _, _ => rfl
  | l :: ls, cs, h => by
    have hl : ¬ReturnOnly cs l := by
      intro hl
      exact h ⟨[], l, ls, rfl, by simpa [layout] using hl⟩
    have hls : ¬ReturnAlone (cs ++ [Chunk.following cs l]) ls := by
      rintro ⟨before, m, after, rfl, hm⟩
      refine h ⟨l :: before, m, after, rfl, ?_⟩
      rwa [layout, ← List.singleton_append, ← List.append_assoc]
    have ih := layout_eq_plainText ls _ hls
    rw [lastAsks_following] at ih
    rw [layout, List.flatMap_cons, ih, plainText, text_following]
    simp only [needsSpace_iff, hl, or_false]

/-- After a text that is no beginning of the word `return`, the word is never written. -/
theorem not_returnAlone_of_not_start {cs : List Chunk} {ls : List Leaf}
    (h : ¬cs.flatMap Chunk.text <+: Text.ofString "return") : ¬ReturnAlone cs ls := by
  rintro ⟨before, l, after, -, hreturn, -, -⟩
  rw [List.flatMap_append] at hreturn
  exact h ⟨_, hreturn⟩

/-- While the word `return` is not complete, it is no reason for a space. -/
theorem not_returnAlone_of_eq {cs : List Chunk} {ls : List Leaf} (hls : ∀ l ∈ ls, l.text ≠ [])
    (h : (cs ++ layout cs ls).flatMap Chunk.text = Text.ofString "return") :
    ¬ReturnAlone cs ls := by
  rintro ⟨before, l, after, rfl, hreturn, -, -⟩
  rw [layout_append, ← List.append_assoc, List.flatMap_append, hreturn, layout,
    List.flatMap_cons, List.append_right_eq_self, List.append_eq_nil_iff, text_following] at h
  have hl := hls l (by simp)
  simp [hl] at h

/-- Where the word `return` is alone in asking for a space, that is at the start and once. -/
theorem layout_of_returnAlone {ls : List Leaf} (hls : ∀ l ∈ ls, l.text ≠ [])
    (h : ReturnAlone [] ls) : ∃ rest,
      (layout [] ls).flatMap Chunk.text = Text.ofString "return" ++ Draft.space ++ rest ∧
        plainText false ls = Text.ofString "return" ++ rest := by
  obtain ⟨before, l, after, rfl, hl⟩ := h
  rw [List.nil_append] at hl
  have hword := hl.1
  generalize hcs : layout [] before = cs at hl hword
  have hneeds : NeedsSpace cs l := needsSpace_iff.2 (.inr hl)
  -- the first part is laid out plainly, since the word is complete only at its end
  have hbefore : plainText false before = Text.ofString "return" := by
    have hnot : ¬ReturnAlone [] before :=
      not_returnAlone_of_eq (fun m hm => hls m (by simp [hm])) (by rw [List.nil_append, hcs, hword])
    have hplain := layout_eq_plainText before [] hnot
    rw [hcs, hword] at hplain
    exact hplain.symm
  -- so is the last part, since the space after the word belongs to no word `return`
  have hafter : (layout (cs ++ [Chunk.following cs l]) after).flatMap Chunk.text =
      plainText (decide l.AsksSpaceAfter) after := by
    rw [← lastAsks_following cs l]
    refine layout_eq_plainText after _ (not_returnAlone_of_not_start ?_)
    rintro ⟨rest, hrest⟩
    rw [List.flatMap_append, hword, List.flatMap_singleton, text_following, if_pos hneeds] at hrest
    simp [Draft.space, Text.ofString] at hrest
  refine ⟨l.text ++ (if l.EndsLine then Draft.lineBreak else [])
    ++ plainText (decide l.AsksSpaceAfter) after, ?_, ?_⟩
  · rw [layout_append, List.nil_append, hcs, layout, List.flatMap_append, hword, List.flatMap_cons,
      hafter, text_following, if_pos hneeds]
    simp only [List.append_assoc]
  · have happend := plainText_append before (l :: after) []
    rw [List.nil_append, hcs] at happend
    rw [show false = lastAsks [] from rfl, happend, show lastAsks [] = false from rfl, hbefore,
      plainText, if_neg hl.2.2]
    simp only [List.nil_append]

/-- Nothing is written only if there are no leaves. -/
theorem eq_nil_of_layout {ls : List Leaf} {cs : List Chunk} (hls : ∀ l ∈ ls, l.text ≠ [])
    (h : (layout cs ls).flatMap Chunk.text = []) : ls = [] := by
  cases ls with
  | nil => rfl
  | cons l ls =>
    have hl := hls l (by simp)
    simp [layout, text_following, hl] at h

theorem Draft.Holds.asksSpace_eq {d : Draft} {cs : List Chunk} (hd : d.Holds cs) :
    d.asksSpace = lastAsks cs := by
  rw [Bool.eq_iff_iff, hd.asks_iff, lastAsks, decide_eq_true_eq]

theorem Draft.Holds.text_append {d d' : Draft} {cs cs' : List Chunk} (hd : d.Holds cs)
    (hd' : d'.Holds (cs ++ cs')) : d'.text = d.text ++ cs'.flatMap Chunk.text := by
  rw [hd'.text_eq, List.flatMap_append, hd.text_eq]

/-! ## Leaves of linked nodes -/

namespace Store

variable {s : Store} {r q l : Ref}

/-- A node as a leaf, with the kinds of all nodes above it. -/
def leafAt (s : Store) (r : Ref) : Leaf :=
  { token := s.tokenAt r, above := (s.ancestors r).map s.kind? }

/-- The nearest nodes above a node are its parent and its grandparent. -/
theorem IsForest.getElem?_ancestors (h : s.IsForest) (r : Ref) :
    (s.ancestors r)[0]? = s.parent? r ∧ (s.ancestors r)[1]? = (s.parent? r).bind s.parent? := by
  cases hp : s.parent? r with
  | none => simp [ancestors, chain, hp]
  | some p =>
    have hpr : p ≠ r := fun heq => h.acyclic r (.single (heq ▸ hp))
    obtain ⟨n, hn⟩ : ∃ n, s.size = n + 1 :=
      Nat.exists_eq_succ_of_ne_zero (Nat.ne_of_gt (Nat.zero_lt_of_lt (lt_size_of_parent? hp)))
    cases hg : s.parent? p with
    | none => simp [ancestors, chain, hp, hpr, hn, hg]
    | some g =>
      have hgp : g ≠ p := fun heq => h.acyclic p (.single (heq ▸ hg))
      have hgr : g ≠ r := fun heq => h.acyclic r (.tail (.single hp) (heq ▸ hg))
      simp [ancestors, chain, hp, hpr, hn, hg, hgp, hgr]

theorem IsForest.surroundings_leafAt (h : s.IsForest) (r : Ref) :
    (s.leafAt r).surroundings = s.surroundings r := by
  obtain ⟨hfirst, hsecond⟩ := h.getElem?_ancestors r
  have hparent : (s.leafAt r).surroundings.parent = (s.surroundings r).parent := by
    rw [Leaf.surroundings, Surroundings.parent_ofAncestors, leafAt, List.getElem?_map, hfirst]
    cases hp : s.parent? r <;> simp [surroundings, hp]
  have hgrandparent : (s.leafAt r).surroundings.grandparent = (s.surroundings r).grandparent := by
    rw [Leaf.surroundings, Surroundings.grandparent_ofAncestors, leafAt, List.getElem?_map, hsecond]
    cases hg : (s.parent? r).bind s.parent? <;> simp [surroundings, hg]
  have hannotated : (s.leafAt r).surroundings.annotated = (s.surroundings r).annotated := by
    rw [Bool.eq_iff_iff, Leaf.annotated_surroundings, h.annotated_surroundings]
    simp only [Leaf.IsAnnotated, leafAt, List.mem_map, h.mem_ancestors, IsAnnotated]
    grind
  cases hs : s.surroundings r
  cases hl : (s.leafAt r).surroundings
  simp_all

/-- Whether a node without children shows in the canonical text. -/
def isVisible (s : Store) (l : Ref) : Bool :=
  (s.tokenAt l).isVisible

/-- The visible ones among some nodes without children, as leaves. -/
def shown (s : Store) (ls : List Ref) : List Leaf :=
  (ls.filter s.isVisible).map s.leafAt

theorem shown_append (ls ms : List Ref) : s.shown (ls ++ ms) = s.shown ls ++ s.shown ms := by
  rw [shown, List.filter_append, List.map_append]
  rfl

theorem shown_cons_of_isVisible (hl : s.isVisible l) (ls : List Ref) :
    s.shown (l :: ls) = s.leafAt l :: s.shown ls := by
  rw [shown, List.filter_cons_of_pos hl]
  rfl

theorem shown_cons_of_not_isVisible (hl : ¬s.isVisible l) (ls : List Ref) :
    s.shown (l :: ls) = s.shown ls := by
  rw [shown, List.filter_cons_of_neg hl]
  rfl

theorem isVisible_of_mem_shown {ls : List Ref} {m : Leaf} (hm : m ∈ s.shown ls) : m.isVisible := by
  obtain ⟨l, hl, rfl⟩ := List.mem_map.1 hm
  exact (List.mem_filter.1 hl).2

theorem text_ne_nil_of_mem_shown {ls : List Ref} : ∀ m ∈ s.shown ls, m.text ≠ [] :=
  fun _ hm => Leaf.text_ne_nil (isVisible_of_mem_shown hm)

/-- Writing nodes without children is writing the visible ones as leaves. -/
theorem IsForest.foldl_writeTip (h : s.IsForest) : ∀ (ls : List Ref) (d : Draft),
    ls.foldl s.writeTip d = (s.shown ls).foldl Draft.writeLeaf d
  | [], _ => rfl
  | l :: ls, d => by
    rw [List.foldl_cons, foldl_writeTip h ls]
    by_cases hl : s.isVisible l
    · rw [shown_cons_of_isVisible hl, List.foldl_cons, Draft.writeLeaf, h.surroundings_leafAt]
      rfl
    · have hskip : s.writeTip d l = d := if_neg hl
      rw [shown_cons_of_not_isVisible hl, hskip]

/-- What is written for nodes without children after the chunks so far. -/
theorem IsForest.holds_foldl (h : s.IsForest) {d : Draft} {cs : List Chunk} (hd : d.Holds cs)
    (ls : List Ref) : (ls.foldl s.writeTip d).Holds (cs ++ layout cs (s.shown ls)) := by
  rw [h.foldl_writeTip]
  exact hd.foldl_writeLeaf _ fun _ hm => isVisible_of_mem_shown hm

/-! ## The draft with which a node is met -/

/-- Writing what is below the first node, with the first draft, comes to the second node with the
second draft. The depth of the store is fuel enough wherever a walk starts. -/
inductive Enters (s : Store) : Ref → Draft → Ref → Draft → Prop
  | start (r : Ref) (d : Draft) : s.Enters r d r d
  | child {r c q : Ref} {d d₁ d₂ : Draft} {before after : List Ref}
      (hchildren : s.childrenOf r = before ++ c :: after)
      (hbefore : before.foldlM (fun d c => s.writeFrom s.depth c d) d = .ok d₁)
      (hc : s.Enters c d₁ q d₂) : s.Enters r d q d₂

/-- The walk comes to every node below the one where it starts. -/
theorem IsForest.exists_enters (h : s.IsForest) (hq : ReflTransGen s.Up q r) (d : Draft) :
    ∃ d', s.Enters r d q d' := by
  induction hq generalizing d with
  | refl => exact ⟨d, .start q d⟩
  | @tail c r _ hup ih =>
    obtain ⟨before, after, hchildren⟩ := List.append_of_mem (h.mem_iff.2 hup)
    obtain ⟨d', hd'⟩ := ih ((before.flatMap s.tips).foldl s.writeTip d)
    exact ⟨d', .child hchildren (h.foldlM_tips _ d) hd'⟩

/-- The tips of a node stand together among those of the node where the walk started, and what is
before them is written when the walk comes to the node. -/
theorem IsForest.tips_of_enters (h : s.IsForest) {d d' : Draft} (hq : s.Enters r d q d') :
    ∃ before after, s.tips r = before ++ s.tips q ++ after ∧ d' = before.foldl s.writeTip d := by
  induction hq with
  | start r d => exact ⟨[], [], by simp, rfl⟩
  | @child r c q d d₁ d₂ cs cs' hchildren hbefore _ ih =>
    obtain ⟨before, after, htips, rfl⟩ := ih
    obtain rfl := Except.ok.inj (hbefore.symm.trans (h.foldlM_tips cs d))
    refine ⟨cs.flatMap s.tips ++ before, after ++ cs'.flatMap s.tips, ?_, ?_⟩
    · rw [h.tips_of_children (by simp [hchildren]), hchildren, List.flatMap_append,
        List.flatMap_cons, htips]
      simp only [List.append_assoc]
    · rw [List.foldl_append]

/-- A member of what several lists add up to is in one of them. -/
theorem flatMap_eq_append_cons {f : Ref → List Ref} : ∀ {cs before after : List Ref} {l : Ref},
    cs.flatMap f = before ++ l :: after → ∃ cs₁ c cs₂ before' after', cs = cs₁ ++ c :: cs₂ ∧
      f c = before' ++ l :: after' ∧ before = cs₁.flatMap f ++ before'
  | [], before, after, l, h => by simp at h
  | c :: cs, before, after, l, h => by
    rw [List.flatMap_cons, List.append_eq_append_iff] at h
    rcases h with ⟨rest, rfl, hrest⟩ | ⟨rest, hc, hrest⟩
    · obtain ⟨cs₁, c', cs₂, before', after', rfl, hc', rfl⟩ := flatMap_eq_append_cons hrest
      exact ⟨c :: cs₁, c', cs₂, before', after', rfl, hc', by simp⟩
    · cases rest with
      | nil =>
        obtain ⟨cs₁, c', cs₂, before', after', rfl, hc', hbefore⟩ :=
          @flatMap_eq_append_cons f cs [] after l hrest.symm
        refine ⟨c :: cs₁, c', cs₂, before', after', rfl, hc', ?_⟩
        rw [List.flatMap_cons, List.append_assoc, ← hbefore, hc]
        simp
      | cons m rest =>
        obtain ⟨rfl, -⟩ := List.cons.inj hrest
        exact ⟨[], c, cs, before, rest, rfl, hc, rfl⟩

/-- The walk comes to every tip with what is before it. -/
theorem IsForest.enters_tip (h : s.IsForest) (r : Ref) : ∀ {before after : List Ref} {l : Ref},
    s.tips r = before ++ l :: after → ∀ d, s.childrenOf l = [] ∧
      s.Enters r d l (before.foldl s.writeTip d) := by
  induction r using h.below_induction with
  | step r ih =>
    intro before after l htips d
    by_cases hr : s.childrenOf r = []
    · rw [tips_leaf hr, eq_comm, List.append_eq_singleton_iff] at htips
      obtain ⟨rfl, hl⟩ | ⟨-, hl⟩ := htips
      · obtain ⟨rfl, rfl⟩ := List.cons.inj hl
        exact ⟨hr, .start _ d⟩
      · cases hl
    · rw [h.tips_of_children hr] at htips
      obtain ⟨cs₁, c, cs₂, before', after', hcs, hc, rfl⟩ := flatMap_eq_append_cons htips
      obtain ⟨hl, henters⟩ := ih c (by simp [hcs]) hc ((cs₁.flatMap s.tips).foldl s.writeTip d)
      rw [List.foldl_append]
      exact ⟨hl, .child hcs (h.foldlM_tips _ d) henters⟩

/-! ## The text in context -/

/-- A token accepts a space that the one before it asks for. -/
def Accepts (s : Store) (l : Ref) : Prop :=
  Spacing.acceptsSpaceBefore (s.surroundings l) (s.kind? l) = true

/-- A token has a space before it whatever stands there. -/
def Demands (s : Store) (l : Ref) : Prop :=
  Spacing.demandsSpaceBefore (s.surroundings l) (s.kind? l) = true

instance : Decidable (s.Accepts l) := inferInstanceAs (Decidable (_ = _))

instance : Decidable (s.Demands l) := inferInstanceAs (Decidable (_ = _))

/-- When a node is written on its own, the word `return` is written first, and that it stands at the
very start is the only reason for the space after it. -/
def SpacedByReturn (s : Store) (q : Ref) : Prop :=
  ∃ l d, s.Enters q .empty l d ∧ s.childrenOf l = [] ∧ s.isVisible l = true ∧
    d.text = Text.ofString "return" ∧ (s.tokenAt l).rawText ≠ Text.ofString ";" ∧
    ¬((d.asksSpace = true ∧ s.Accepts l) ∨ s.Demands l)

theorem IsForest.acceptsSpaceBefore_leafAt (h : s.IsForest) :
    (s.leafAt l).AcceptsSpaceBefore ↔ s.Accepts l := by
  rw [← Leaf.acceptsSpaceBefore_iff, h.surroundings_leafAt]
  rfl

theorem IsForest.demandsSpaceBefore_leafAt (h : s.IsForest) :
    (s.leafAt l).DemandsSpaceBefore ↔ s.Demands l := by
  rw [← Leaf.demandsSpaceBefore_iff, h.surroundings_leafAt]
  rfl

/-- The word `return` is the only reason for a space in the text of a node on its own, seen from its
leaves and from the walk. -/
theorem IsForest.spacedByReturn_iff (h : s.IsForest) :
    s.SpacedByReturn q ↔ ReturnAlone [] (s.shown (s.tips q)) := by
  constructor
  · rintro ⟨l, d, henters, hleaf, hvisible, hreturn, hsemicolon, hapart⟩
    obtain ⟨before, after, htips, rfl⟩ := h.tips_of_enters henters
    rw [tips_leaf hleaf] at htips
    have hd := h.holds_foldl Draft.holds_empty before
    refine ⟨s.shown before, s.leafAt l, s.shown after, ?_, ?_⟩
    · rw [htips, List.append_assoc, List.singleton_append, shown_append,
        shown_cons_of_isVisible hvisible]
    · refine ⟨hd.text_eq ▸ hreturn, hsemicolon, ?_⟩
      rwa [Leaf.IsApart, h.acceptsSpaceBefore_leafAt, h.demandsSpaceBefore_leafAt,
        ← hd.asksSpace_eq]
  · rintro ⟨leaves, leaf, leaves', hshown, hreturn, hsemicolon, hapart⟩
    obtain ⟨ls, ms, hvisible, rfl, hms⟩ := List.map_eq_append_iff.1 hshown
    obtain ⟨l, ms', rfl, rfl, rfl⟩ := List.map_eq_cons_iff.1 hms
    obtain ⟨before, rest, htips, rfl, hrest⟩ := List.filter_eq_append_iff.1 hvisible
    obtain ⟨silent, after, rfl, hsilent, hl, rfl⟩ := List.filter_eq_cons_iff.1 hrest
    have hbefore : s.shown (before ++ silent) = (before.filter s.isVisible).map s.leafAt := by
      rw [shown, List.filter_append, List.filter_eq_nil_iff.2 hsilent, List.append_nil]
    have hd := h.holds_foldl Draft.holds_empty (before ++ silent)
    rw [hbefore] at hd
    rw [← List.append_assoc] at htips
    obtain ⟨hleaf, henters⟩ := h.enters_tip q htips .empty
    refine ⟨l, _, henters, hleaf, hl, hd.text_eq.trans hreturn, hsemicolon, ?_⟩
    rwa [hd.asksSpace_eq, ← h.acceptsSpaceBefore_leafAt, ← h.demandsSpaceBefore_leafAt]

/-- On its own, a node is laid out from nothing. -/
theorem IsForest.canonical_eq_layout (h : s.IsForest) (q : Ref) :
    s.canonical q = .ok ((layout [] (s.shown (s.tips q))).flatMap Chunk.text) := by
  have hq := h.holds_foldl Draft.holds_empty (s.tips q)
  rw [h.canonical_tips, hq.text_eq, List.nil_append]

/-- In a larger tree, a node is laid out after the chunks that the draft holds when the walk comes
to it. -/
theorem IsForest.layout_of_enters (h : s.IsForest) {d : Draft} (hq : s.Enters r .empty q d) :
    ∃ ls d', d.Holds (layout [] (s.shown ls)) ∧ s.writeFrom s.depth q d = .ok d' ∧
      d'.text =
        d.text ++ (layout (layout [] (s.shown ls)) (s.shown (s.tips q))).flatMap Chunk.text ∧
      ∃ rest, s.canonical r = .ok (d'.text ++ rest) := by
  obtain ⟨before, after, htips, rfl⟩ := h.tips_of_enters hq
  have hd := h.holds_foldl Draft.holds_empty before
  rw [List.nil_append] at hd
  have hd' := h.holds_foldl hd (s.tips q)
  have hend := h.holds_foldl hd' after
  refine ⟨before, _, hd, h.writeFrom_tips q _, hd.text_append hd', ?_⟩
  rw [h.canonical_tips, htips, List.foldl_append, List.foldl_append, hd'.text_append hend]
  exact ⟨_, rfl⟩

/-- The walk over what is below a node comes to each node below it. Such a node adds its canonical
text if nothing is written before. If what is written before is no beginning of the word `return`,
it adds its canonical text, with one space before it if one is asked for, its first visible token
accepts it and does not demand it anyway; and without the space after the word `return` at the
start if there is no other reason for it. -/
theorem canonical_in_context (h : s.IsForest) (r : Ref) :
    (∀ q, ReflTransGen s.Up q r → ∃ d, s.Enters r .empty q d) ∧
    ∀ q d, s.Enters r .empty q d → ∃ d' text added rest,
      s.writeFrom s.depth q d = .ok d' ∧ d'.text = d.text ++ added ∧
      s.canonical r = .ok (d.text ++ added ++ rest) ∧ s.canonical q = .ok text ∧
      (d.text = [] → added = text) ∧
      (¬d.text <+: Text.ofString "return" → ∃ body,
        added = (if d.asksSpace = true ∧
            ∃ l ∈ ((s.tips q).filter s.isVisible).head?, s.Accepts l ∧ ¬s.Demands l
          then Draft.space else []) ++ body ∧
        (s.SpacedByReturn q → ∃ tail, text = Text.ofString "return" ++ Draft.space ++ tail ∧
          body = Text.ofString "return" ++ tail) ∧
        (¬s.SpacedByReturn q → body = text)) := by
  refine ⟨fun q hq => h.exists_enters hq .empty, fun q d henters => ?_⟩
  obtain ⟨ls, d', hd, hwrite, hadded, rest, hwhole⟩ := h.layout_of_enters henters
  rw [hadded] at hwhole
  refine ⟨d', _, _, rest, hwrite, hadded, hwhole, h.canonical_eq_layout q, fun hnil => ?_,
    fun hreturn => ⟨plainText false (s.shown (s.tips q)), ?_, fun hspaced => ?_,
      fun hspaced => ?_⟩⟩
  · rw [hd.text_eq] at hnil
    rw [eq_nil_of_layout text_ne_nil_of_mem_shown hnil, layout]
  · rw [hd.text_eq] at hreturn
    rw [layout_eq_plainText _ _ (not_returnAlone_of_not_start hreturn), plainText_eq,
      hd.asksSpace_eq]
    congr 1
    simp [askedSpace, shown, h.acceptsSpaceBefore_leafAt, h.demandsSpaceBefore_leafAt]
  · exact layout_of_returnAlone text_ne_nil_of_mem_shown (h.spacedByReturn_iff.1 hspaced)
  · exact layout_eq_plainText _ [] (mt h.spacedByReturn_iff.2 hspaced) |>.symm

/-- A statement that returns a value in parentheses, after the word `else`. -/
def returning : List Surgery :=
  [.create .construct (some (.construct .ifStatement)) none none [],
    .create .token (some (.token (.keyword .elseKw))) (some "else") (some 0) [],
    .create .construct (some (.construct .returnStatement)) none (some 0) [],
    .create .token (some (.token (.keyword .returnKw))) (some "return") (some 2) [],
    .create .token (some (.token (.symbol .leftParen))) (some "(") (some 2) [],
    .create .token (some (.token .identifier)) (some "x") (some 2) [],
    .create .token (some (.token (.symbol .rightParen))) (some ")") (some 2) [],
    .create .token (some (.token (.symbol .semicolon))) (some ";") (some 2) []]

/-- The statement on its own has a space after the word `return`; after the word `else` it has one
before the word instead. -/
theorem canonical_in_context_returning :
    ∃ s d, empty.applyAll returning = (s, .ok ()) ∧ s.IsForest ∧ s.Enters 0 .empty 2 d ∧
      d.text = Text.ofString "else" ∧ s.SpacedByReturn 2 ∧
      s.canonical 0 = .ok "else return(x);\n" ∧ s.canonical 2 = .ok "return (x);\n" ∧
      ∃ tail, s.canonical 2 = .ok (Text.ofString "return" ++ Draft.space ++ tail) ∧
        ∃ rest, s.canonical 0 =
          .ok (d.text ++ (Draft.space ++ (Text.ofString "return" ++ tail)) ++ rest) := by
  obtain ⟨s, hs, -, hforest⟩ := @isForest_of_grows returning (by decide)
  obtain rfl : (empty.applyAll returning).1 = s := congrArg Prod.fst hs
  have henters : (empty.applyAll returning).1.Enters 0 .empty 2 ⟨#["else"], true⟩ :=
    @Enters.child _ 0 2 2 _ _ _ [1] [] rfl (by decide) (.start _ _)
  have hspaced : (empty.applyAll returning).1.SpacedByReturn 2 :=
    ⟨4, ⟨#["return"], true⟩, @Enters.child _ 2 4 4 _ _ _ [3] [5, 6, 7] rfl (by decide) (.start _ _),
      by decide⟩
  obtain ⟨-, hcontext⟩ := canonical_in_context hforest 0
  obtain ⟨_, _, _, rest, -, -, hwhole, hown, -, hbody⟩ := hcontext 2 _ henters
  obtain ⟨_, rfl, hbody, -⟩ := hbody (by decide)
  obtain ⟨tail, rfl, rfl⟩ := hbody hspaced
  rw [if_pos (by decide)] at hwhole
  exact ⟨_, _, hs, hforest, henters, by decide, hspaced, by decide, by decide, tail, hown, rest,
    hwhole⟩

end Store

end JavaText
