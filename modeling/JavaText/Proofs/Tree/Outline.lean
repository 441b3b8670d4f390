import JavaText.Proofs.Text.Parts
import JavaText.Proofs.Text.Quoting
import JavaText.Proofs.Tree.Document
import JavaText.Tree.Outline

/-!
# Reading an outline back

The outline of a tree whose constructs have kinds of construct and whose tokens have kinds of token
and texts (`Tree.IsLabelled`) shows the whole tree: two such trees have the same outline only if
they are equal (`Tree.outline_injective`).

Names of kinds hold no character below the capital letters, so the spaces before a name tell how
deep a line stands, and a colon where the name ends. Neither names nor quoted texts hold a line
feed. The lines of what is below a construct are those deeper than its own, up to the first that is
not.
-/

namespace JavaText

/-! ## Names -/

/-- A text that is not empty, of capital letters and what comes after them. -/
def Text.IsName (n : Text) : Prop :=
  n ≠ [] ∧ ∀ c ∈ n, 0x41 ≤ c.val

/-- The name of a kind of token is such a text. -/
theorem TokenKind.isName_name (k : TokenKind) : k.name.IsName := by
  have h : all.all (fun k => !k.name.isEmpty && k.name.all fun c => 0x41 ≤ c.val) = true := by
    decide +kernel
  simpa [Text.IsName] using List.all_eq_true.1 h k k.mem_all

/-- So is the name of a kind of construct. -/
theorem ConstructKind.isName_name (k : ConstructKind) : k.name.IsName := by
  have h : all.all (fun k => !k.name.isEmpty && k.name.all fun c => 0x41 ≤ c.val) = true := by
    decide +kernel
  simpa [Text.IsName] using List.all_eq_true.1 h k k.mem_all

/-- Kinds of tokens have different names. -/
theorem TokenKind.name_injective : Function.Injective name := fun k l h =>
  Option.some.inj (by rw [← (ofName?_name k).1, h, (ofName?_name l).1])

/-- Kinds of constructs have different names. -/
theorem ConstructKind.name_injective : Function.Injective name := fun k l h =>
  Option.some.inj (by rw [← (ofName?_name k).1, h, (ofName?_name l).1])

namespace Text.IsName

variable {n m x y : Text}

/-- Blanks, quotes and line breaks are in no name. -/
theorem notMem {c : CodePoint} (hn : n.IsName) (hc : c.val < 0x41) : c ∉ n := fun h =>
  absurd (hn.2 c h) (Nat.not_le.2 hc)

/-- A colon shows where a name ends. -/
theorem append_colon_inj (hn : n.IsName) (hm : m.IsName)
    (h : n ++ CodePoint.ofChar ':' :: x = m ++ CodePoint.ofChar ':' :: y) : n = m ∧ x = y := by
  have hcolon : (CodePoint.ofChar ':').val < 0x41 := by decide
  have hparts := congrArg (splitAt (CodePoint.ofChar ':')) h
  rw [splitAt_append, splitAt_append, splitAt_of_notMem (hn.notMem hcolon),
    splitAt_of_notMem (hm.notMem hcolon)] at hparts
  obtain rfl := (List.cons.inj hparts).1
  exact ⟨rfl, (List.cons.inj (List.append_cancel_left h)).2⟩

end Text.IsName

namespace Outline

/-! ## Lines -/

variable {n : Text} {depth : Nat}

/-- How deep a line stands. -/
def depthOf (line : Text) : Nat :=
  (line.takeWhile (· == CodePoint.ofChar ' ')).length / 2

/-- The depth of a line is told by its indentation, as a name begins with no blank. -/
theorem depthOf_line (hn : n.IsName) (depth : Nat) (x : Text) :
    depthOf (indent depth ++ (n ++ x)) = depth := by
  obtain ⟨c, n, rfl⟩ := List.exists_cons_of_ne_nil hn.1
  have hc : c ≠ CodePoint.ofChar ' ' := by
    rintro rfl
    exact hn.notMem (by decide) List.mem_cons_self
  rw [depthOf, indent, List.takeWhile_append_of_pos (by simp), List.cons_append,
    List.takeWhile_cons_of_neg (by simpa using hc), List.append_nil, List.length_replicate,
    Nat.mul_div_cancel_left depth (by decide)]

theorem depthOf_constructLine (k : ConstructKind) :
    depthOf (constructLine depth (some (.construct k))) = depth := by
  have h := depthOf_line k.isName_name depth []
  rwa [List.append_nil] at h

/-- The line of a token with a kind and a text. -/
theorem tokenLine_eq (depth : Nat) (k : TokenKind) (t : Text) :
    tokenLine depth ⟨some (.token k), some t⟩ =
      indent depth ++ (k.name ++ CodePoint.ofChar ':' :: CodePoint.ofChar ' ' :: t.quoted) := by
  rw [tokenLine, List.append_assoc, List.append_assoc]
  rfl

theorem depthOf_tokenLine (k : TokenKind) (t : Text) :
    depthOf (tokenLine depth ⟨some (.token k), some t⟩) = depth := by
  rw [tokenLine_eq]
  exact depthOf_line k.isName_name depth _

/-- The line of a construct tells its kind. -/
theorem constructLine_injective {k l : ConstructKind}
    (h : constructLine depth (some (.construct k)) = constructLine depth (some (.construct l))) :
    k = l :=
  ConstructKind.name_injective (List.append_cancel_left h)

/-- The line of a token tells its kind and its text. -/
theorem tokenLine_injective {k l : TokenKind} {t u : Text}
    (h : tokenLine depth ⟨some (.token k), some t⟩ = tokenLine depth ⟨some (.token l), some u⟩) :
    k = l ∧ t = u := by
  rw [tokenLine_eq, tokenLine_eq] at h
  obtain ⟨hname, htext⟩ := k.isName_name.append_colon_inj l.isName_name (List.append_cancel_left h)
  exact ⟨TokenKind.name_injective hname, Text.quoted_injective (List.cons.inj htext).2⟩

/-- A colon tells the line of a token from that of a construct. -/
theorem constructLine_ne_tokenLine (k : ConstructKind) (l : TokenKind) (t : Text) :
    constructLine depth (some (.construct k)) ≠ tokenLine depth ⟨some (.token l), some t⟩ := by
  intro h
  rw [tokenLine_eq] at h
  have hname : k.name = _ := List.append_cancel_left h
  refine k.isName_name.notMem (c := CodePoint.ofChar ':') (by decide) ?_
  rw [hname]
  exact List.mem_append_right _ List.mem_cons_self

/-! ## One line each -/

theorem lineFeed_notMem_indent (depth : Nat) : CodePoint.ofChar '\n' ∉ indent depth := by
  have hne : CodePoint.ofChar '\n' ≠ CodePoint.ofChar ' ' := by decide
  exact fun h => hne (List.eq_of_mem_replicate h)

theorem lineFeed_notMem_constructLine (k : ConstructKind) :
    CodePoint.ofChar '\n' ∉ constructLine depth (some (.construct k)) := by
  rw [constructLine, List.mem_append, not_or]
  exact ⟨lineFeed_notMem_indent depth, k.isName_name.notMem (by decide)⟩

/-- A line feed in the text of a token is quoted, so its line is one line. -/
theorem lineFeed_notMem_tokenLine (k : TokenKind) (t : Text) :
    CodePoint.ofChar '\n' ∉ tokenLine depth ⟨some (.token k), some t⟩ := by
  have hcolon : CodePoint.ofChar '\n' ≠ CodePoint.ofChar ':' := by decide
  have hspace : CodePoint.ofChar '\n' ≠ CodePoint.ofChar ' ' := by decide
  have hname : CodePoint.ofChar '\n' ∉ k.name := k.isName_name.notMem (by decide)
  simp [tokenLine_eq, lineFeed_notMem_indent, hname, hcolon, hspace, t.lineFeed_notMem_quoted]

end Outline

namespace Tree

open Outline

/-- Each construct has a kind of construct, each token a kind of token and a text. -/
inductive IsLabelled : Tree → Prop
  | token (k : TokenKind) (t : Text) : IsLabelled (.token ⟨some (.token k), some t⟩)
  | construct (k : ConstructKind) {ts : List Tree} (h : ∀ t ∈ ts, IsLabelled t) :
    IsLabelled (.construct (some (.construct k)) ts)

/-- There is no line, or the first one stands less deep. -/
def StartsAbove (depth : Nat) (lines : List Text) : Prop :=
  ∀ line ∈ lines.head?, depthOf line < depth

theorem startsAbove_nil (depth : Nat) : StartsAbove depth [] :=
  nofun

/-- The outline of a tree starts with the line of its root. -/
theorem IsLabelled.outlineLines_eq {t : Tree} (h : t.IsLabelled) (depth : Nat) :
    ∃ line lines, t.outlineLines depth = line :: lines ∧ depthOf line = depth := by
  cases h with
  | token k t => exact ⟨_, [], by rw [outlineLines], depthOf_tokenLine k t⟩
  | construct k _ => exact ⟨_, _, by rw [outlineLines], depthOf_constructLine k⟩

/-- What begins with the lines of a tree starts above what is deeper. -/
theorem IsLabelled.startsAbove {t : Tree} (h : t.IsLabelled) (depth : Nat) (rest : List Text) :
    StartsAbove (depth + 1) (t.outlineLines depth ++ rest) := by
  obtain ⟨line, lines, hlines, hdepth⟩ := h.outlineLines_eq depth
  rw [hlines, List.cons_append, StartsAbove, List.head?_cons]
  rintro _ ⟨⟩
  exact hdepth ▸ Nat.lt_succ_self _

/-- The outlines of trees at a depth, if there are any, stand less deep than what is below them. -/
theorem startsAbove_outlineLinesOf {ts : List Tree} {depth : Nat} {rest : List Text}
    (hts : ∀ t ∈ ts, t.IsLabelled) (hrest : StartsAbove depth rest) :
    StartsAbove (depth + 1) (outlineLinesOf depth ts ++ rest) := by
  cases ts with
  | nil =>
    rw [outlineLinesOf]
    exact fun line hline => Nat.lt_succ_of_lt (hrest line hline)
  | cons t ts =>
    rw [outlineLinesOf, List.append_assoc]
    exact (hts t List.mem_cons_self).startsAbove depth _

/-- No outline at a depth starts with lines that stand less deep. -/
theorem IsLabelled.append_ne {t : Tree} (h : t.IsLabelled) {depth : Nat} {rest : List Text}
    (hrest : StartsAbove depth rest) (more : List Text) : rest ≠ t.outlineLines depth ++ more := by
  rintro rfl
  obtain ⟨line, lines, hlines, hdepth⟩ := h.outlineLines_eq depth
  rw [hlines] at hrest
  exact Nat.lt_irrefl depth (hdepth ▸ hrest line rfl)

mutual

/-- Where the lines of a tree are followed by lines that stand no deeper than its root, they show
the tree. -/
theorem outlineLines_append_inj : ∀ {t u : Tree} {depth : Nat} {rest rest' : List Text},
    t.IsLabelled → u.IsLabelled → StartsAbove (depth + 1) rest → StartsAbove (depth + 1) rest' →
      t.outlineLines depth ++ rest = u.outlineLines depth ++ rest' → t = u ∧ rest = rest'
  | .token _, .token _, depth, rest, rest', .token k x, .token l y, _, _, h => by
    rw [outlineLines, outlineLines] at h
    obtain ⟨hline, hrest⟩ := List.cons.inj h
    obtain ⟨rfl, rfl⟩ := tokenLine_injective hline
    exact ⟨rfl, hrest⟩
  | .construct _ ts, .construct _ us, depth, rest, rest', .construct k hts, .construct l hus,
      hrest, hrest', h => by
    rw [outlineLines, outlineLines] at h
    obtain ⟨hline, hbelow⟩ := List.cons.inj h
    obtain rfl := constructLine_injective hline
    obtain ⟨rfl, hrests⟩ := outlineLinesOf_append_inj hts hus hrest hrest' hbelow
    exact ⟨rfl, hrests⟩
  | .token _, .construct _ us, depth, rest, rest', .token k x, .construct l _, _, _, h => by
    rw [outlineLines, outlineLines] at h
    exact absurd (List.cons.inj h).1.symm (constructLine_ne_tokenLine l k x)
  | .construct _ ts, .token _, depth, rest, rest', .construct k _, .token l y, _, _, h => by
    rw [outlineLines, outlineLines] at h
    exact absurd (List.cons.inj h).1 (constructLine_ne_tokenLine k l y)

/-- The lines of trees tell the trees, up to where a line starts above them. -/
theorem outlineLinesOf_append_inj : ∀ {ts us : List Tree} {depth : Nat} {rest rest' : List Text},
    (∀ t ∈ ts, t.IsLabelled) → (∀ u ∈ us, u.IsLabelled) → StartsAbove depth rest →
      StartsAbove depth rest' →
        outlineLinesOf depth ts ++ rest = outlineLinesOf depth us ++ rest' → ts = us ∧ rest = rest'
  | [], [], _, _, _, _, _, _, _, h => ⟨rfl, h⟩
  | t :: ts, u :: us, depth, rest, rest', hts, hus, hrest, hrest', h => by
    rw [List.forall_mem_cons] at hts hus
    rw [outlineLinesOf, outlineLinesOf, List.append_assoc, List.append_assoc] at h
    obtain ⟨rfl, hmore⟩ := outlineLines_append_inj hts.1 hus.1
      (startsAbove_outlineLinesOf hts.2 hrest) (startsAbove_outlineLinesOf hus.2 hrest') h
    obtain ⟨rfl, hrests⟩ := outlineLinesOf_append_inj hts.2 hus.2 hrest hrest' hmore
    exact ⟨rfl, hrests⟩
  | [], u :: us, depth, rest, rest', _, hus, hrest, _, h => by
    rw [outlineLinesOf, outlineLinesOf, List.append_assoc] at h
    exact absurd h ((hus u List.mem_cons_self).append_ne hrest _)
  | t :: ts, [], depth, rest, rest', hts, _, _, hrest', h => by
    rw [outlineLinesOf, outlineLinesOf, List.append_assoc] at h
    exact absurd h.symm ((hts t List.mem_cons_self).append_ne hrest' _)

end

mutual

/-- Each line of an outline is one line. -/
theorem lineFeed_notMem_outlineLines : ∀ {t : Tree} {depth : Nat}, t.IsLabelled →
    ∀ line ∈ t.outlineLines depth, CodePoint.ofChar '\n' ∉ line
  | .token _, depth, .token k x => by
    rw [outlineLines, List.forall_mem_singleton]
    exact lineFeed_notMem_tokenLine k x
  | .construct _ ts, depth, .construct k hts => by
    rw [outlineLines, List.forall_mem_cons]
    exact ⟨lineFeed_notMem_constructLine k, lineFeed_notMem_outlineLinesOf hts⟩

theorem lineFeed_notMem_outlineLinesOf : ∀ {ts : List Tree} {depth : Nat},
    (∀ t ∈ ts, t.IsLabelled) → ∀ line ∈ outlineLinesOf depth ts, CodePoint.ofChar '\n' ∉ line
  | [], _, _ => by rw [outlineLinesOf]; exact List.forall_mem_nil _
  | t :: ts, depth, h => by
    obtain ⟨ht, hts⟩ := List.forall_mem_cons.1 h
    rw [outlineLinesOf, List.forall_mem_append]
    exact ⟨lineFeed_notMem_outlineLines ht, lineFeed_notMem_outlineLinesOf hts⟩

end

/-- An outline is split into its lines at line feeds. -/
theorem IsLabelled.splitAt_outline {t : Tree} (h : t.IsLabelled) :
    Text.splitAt (CodePoint.ofChar '\n') t.outline = t.outlineLines 0 := by
  obtain ⟨line, lines, hlines, -⟩ := h.outlineLines_eq 0
  exact Text.splitAt_join (by rw [hlines]; exact List.cons_ne_nil line lines)
    (lineFeed_notMem_outlineLines h)

/-- Different trees have different outlines. -/
theorem outline_injective {t u : Tree} (ht : t.IsLabelled) (hu : u.IsLabelled)
    (h : t.outline = u.outline) : t = u := by
  have hlines : t.outlineLines 0 ++ [] = u.outlineLines 0 ++ [] := by
    rw [List.append_nil, List.append_nil, ← ht.splitAt_outline, h, hu.splitAt_outline]
  exact (outlineLines_append_inj ht hu (startsAbove_nil 1) (startsAbove_nil 1) hlines).1

end Tree

end JavaText
