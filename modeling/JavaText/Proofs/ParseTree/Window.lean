import JavaText.Proofs.ParseTree.Steps
import Mathlib.Data.List.Nodup
import Mathlib.Data.List.Perm.Basic
import Mathlib.Order.WellFounded

/-!
# The hidden tokens around a part of the stream

An import that wants hidden tokens takes in, at each terminal, the runs of hidden tokens on both
sides of it that are not in the tree yet. A run between two terminals is met twice, once from each
side, and only the record of what is placed keeps it from being taken in twice.

`TokenStream.gather` is what terminals at given places take in, one after another. Seen as a set, it
is all that stands beside one of the terminals, and it comes in the order of the stream. If the
terminals are all main tokens of a part of the stream, it is therefore the `TokenStream.window` of
that part: everything between the last main token before the part and the first main token after it
(`TokenStream.gather_mains`).
-/

namespace JavaText

namespace TokenStream

variable {s : TokenStream} {i : Nat} {x y : SourceToken × Nat}

/-! ## Tokens and their places -/

/-- The end mark after all tokens. -/
def endMark : SourceToken :=
  { number := SourceToken.endNumber, text := some (Text.ofString "<EOF>"), channel := 0 }

/-- All tokens of the stream with their places, the end mark that ends it included. -/
def entire (s : TokenStream) : List (SourceToken × Nat) :=
  ((s.tokens ++ [endMark]).take (s.last + 1)).zipIdx

/-- The order of the stream. -/
def Before (x y : SourceToken × Nat) : Prop :=
  x.2 < y.2

/-- Tokens of a stream are numbered in order. -/
theorem pairwise_zipIdx (ts : List SourceToken) : ts.zipIdx.Pairwise Before := by
  rw [List.pairwise_iff_getElem]
  intro j k hj hk hjk
  simpa [Before] using hjk

theorem mem_zipIdx_take {ts : List SourceToken} {n : Nat} :
    x ∈ (ts.take (n + 1)).zipIdx ↔ ts[x.2]? = some x.1 ∧ x.2 ≤ n := by
  rw [List.mk_mem_zipIdx_iff_getElem?, List.getElem?_take]
  split
  · next h => exact ⟨fun hx => ⟨hx, Nat.le_of_lt_succ h⟩, fun hx => hx.1⟩
  · next h => exact ⟨nofun, fun hx => absurd (Nat.lt_succ_of_le hx.2) h⟩

/-- The numbered tokens are those up to the last that was read. -/
theorem mem_numbered : x ∈ s.numbered ↔ s.tokens[x.2]? = some x.1 ∧ x.2 ≤ s.last :=
  mem_zipIdx_take

/-- Those of the entire stream are these and the mark of the end. -/
theorem mem_entire :
    x ∈ s.entire ↔ (s.tokens ++ [endMark])[x.2]? = some x.1 ∧ x.2 ≤ s.last :=
  mem_zipIdx_take

/-- A place has one token. -/
theorem eq_of_mem_numbered (hx : x ∈ s.numbered) (hy : y ∈ s.numbered) (h : x.2 = y.2) : x = y := by
  have htoken := (mem_numbered.1 hx).1
  rw [h, (mem_numbered.1 hy).1] at htoken
  exact Prod.ext (Option.some.inj htoken).symm h

theorem mem_entire_of_mem_numbered (h : x ∈ s.numbered) : x ∈ s.entire := by
  obtain ⟨htoken, hle⟩ := mem_numbered.1 h
  refine mem_entire.2 ⟨?_, hle⟩
  rw [List.getElem?_append_left (List.getElem?_eq_some_iff.1 htoken).1, htoken]

/-- Only the end mark after all tokens is not among the tokens. -/
theorem mem_numbered_of_mem_entire (h : x ∈ s.entire) (hend : ¬(x.1.isEnd ∧ ¬x.1.isHidden)) :
    x ∈ s.numbered := by
  obtain ⟨htoken, hle⟩ := mem_entire.1 h
  refine mem_numbered.2 ⟨?_, hle⟩
  rcases Nat.lt_or_ge x.2 s.tokens.length with hlt | hge
  · rwa [List.getElem?_append_left hlt] at htoken
  · rw [List.getElem?_append_right hge, List.getElem?_singleton] at htoken
    split at htoken
    · exact absurd (Option.some.inj htoken ▸ by decide) hend
    · cases htoken

/-- No token before the last place is an end mark. -/
theorem last_le_of_isEnd {t : SourceToken} (h : s.tokens[i]? = some t) (hend : t.isEnd) :
    s.last ≤ i := by
  by_contra hlt
  have hlt' : i < (s.tokens.takeWhile fun t => !t.isEnd).length := Nat.not_le.1 hlt
  have heq := (List.takeWhile_prefix fun t : SourceToken => !t.isEnd).getElem hlt'
  have hall := List.all_eq_true.1 List.all_takeWhile _ (List.getElem_mem hlt')
  rw [heq, (List.getElem?_eq_some_iff.1 h).2, hend] at hall
  cases hall

/-! ## Runs of hidden tokens -/

/-- In an ordered list those are taken before which nothing fails. -/
theorem mem_takeWhile_of_pairwise {α : Type} {r : α → α → Prop} (hr : ∀ a b, r a b → ¬r b a)
    {q : α → Bool} {a : α} : ∀ {l : List α}, l.Pairwise r →
      (a ∈ l.takeWhile q ↔ a ∈ l ∧ q a ∧ ∀ b ∈ l, r b a → q b)
  | [], _ => by simp
  | b :: l, h => by
    obtain ⟨hb, hl⟩ := List.pairwise_cons.1 h
    by_cases hq : q b = true
    · rw [List.takeWhile_cons_of_pos hq, List.mem_cons, mem_takeWhile_of_pairwise hr hl,
        List.mem_cons]
      constructor
      · rintro (rfl | ⟨hmem, ha, hall⟩)
        · refine ⟨Or.inl rfl, hq, fun c hc hca => ?_⟩
          rcases List.mem_cons.1 hc with rfl | hc
          · exact hq
          · exact absurd hca (hr _ _ (hb c hc))
        · exact ⟨Or.inr hmem, ha, List.forall_mem_cons.2 ⟨fun _ => hq, hall⟩⟩
      · rintro ⟨rfl | hmem, ha, hall⟩
        · exact Or.inl rfl
        · exact Or.inr ⟨hmem, ha, (List.forall_mem_cons.1 hall).2⟩
    · rw [List.takeWhile_cons_of_neg hq]
      refine ⟨nofun, ?_⟩
      rintro ⟨hmem, ha, hall⟩
      rcases List.mem_cons.1 hmem with rfl | hmem
      · exact absurd ha hq
      · exact absurd (hall b List.mem_cons_self (hb a hmem)) hq

theorem before_asymm (x y : SourceToken × Nat) : Before x y → ¬Before y x :=
  Nat.lt_asymm

theorem pairwise_numbered (s : TokenStream) : s.numbered.Pairwise Before :=
  pairwise_zipIdx _

theorem mem_take_zipIdx {ts : List SourceToken} :
    x ∈ ts.zipIdx.take i ↔ x ∈ ts.zipIdx ∧ x.2 < i := by
  constructor
  · intro h
    obtain ⟨j, hj, rfl⟩ := List.mem_take_iff_getElem.1 h
    refine ⟨List.getElem_mem _, ?_⟩
    rw [List.getElem_zipIdx]
    simp only
    omega
  · rintro ⟨h, hlt⟩
    obtain ⟨j, hj, rfl⟩ := List.getElem_of_mem h
    rw [List.getElem_zipIdx] at hlt
    refine List.mem_take_iff_getElem.2 ⟨j, ?_, rfl⟩
    simp only at hlt
    omega

theorem mem_drop_zipIdx {ts : List SourceToken} :
    x ∈ ts.zipIdx.drop (i + 1) ↔ x ∈ ts.zipIdx ∧ i < x.2 := by
  constructor
  · intro h
    obtain ⟨j, hj, rfl⟩ := List.mem_drop_iff_getElem.1 h
    refine ⟨List.getElem_mem _, ?_⟩
    rw [List.getElem_zipIdx]
    simp only
    omega
  · rintro ⟨h, hlt⟩
    obtain ⟨j, hj, rfl⟩ := List.getElem_of_mem h
    rw [List.getElem_zipIdx] at hlt
    simp only [Nat.zero_add] at hlt
    refine List.mem_drop_iff_getElem.2 ⟨j - (i + 1), by omega, ?_⟩
    simp only [show i + 1 + (j - (i + 1)) = j by omega]

/-- Before a place stand the hidden tokens from which on all tokens up to the place are hidden. -/
theorem mem_hiddenBefore : x ∈ s.hiddenBefore i ↔ x ∈ s.numbered ∧ x.2 < i ∧
    ∀ y ∈ s.numbered, x.2 ≤ y.2 → y.2 < i → y.1.isHidden := by
  have hpairwise : (s.numbered.take i).reverse.Pairwise fun a b => Before b a :=
    List.pairwise_reverse.2 ((pairwise_numbered s).sublist (List.take_sublist _ _))
  rw [hiddenBefore, List.mem_reverse,
    mem_takeWhile_of_pairwise (fun a b => before_asymm b a) hpairwise]
  simp only [List.mem_reverse, numbered, mem_take_zipIdx, and_assoc]
  refine and_congr_right fun hx => and_congr_right fun hlt => ⟨?_, fun h => ?_⟩
  · rintro ⟨hhidden, h⟩ y hy hle hyi
    rcases Nat.lt_or_eq_of_le hle with hxy | hxy
    · exact h y ⟨hy, hyi⟩ hxy
    · rwa [← eq_of_mem_numbered hx hy hxy]
  · exact ⟨h x hx (Nat.le_refl _) hlt, fun y hy hxy => h y hy.1 (Nat.le_of_lt hxy) hy.2⟩

/-- After a place stand the hidden tokens up to which all tokens from the place on are hidden. -/
theorem mem_hiddenAfter : x ∈ s.hiddenAfter i ↔ x ∈ s.numbered ∧ i < x.2 ∧
    ∀ y ∈ s.numbered, i < y.2 → y.2 ≤ x.2 → y.1.isHidden := by
  have hpairwise := (pairwise_numbered s).sublist (List.drop_sublist (i + 1) _)
  rw [hiddenAfter, mem_takeWhile_of_pairwise before_asymm hpairwise]
  simp only [numbered, mem_drop_zipIdx, and_assoc]
  refine and_congr_right fun hx => and_congr_right fun hlt => ⟨?_, fun h => ?_⟩
  · rintro ⟨hhidden, h⟩ y hy hiy hle
    rcases Nat.lt_or_eq_of_le hle with hyx | hyx
    · exact h y ⟨hy, hiy⟩ hyx
    · rwa [eq_of_mem_numbered hy hx hyx]
  · exact ⟨h x hx hlt (Nat.le_refl _), fun y hy hyx => h y hy.1 hy.2 (Nat.le_of_lt hyx)⟩

/-- Hidden tokens before a place are in order. -/
theorem pairwise_hiddenBefore (s : TokenStream) (i : Nat) : (s.hiddenBefore i).Pairwise Before := by
  have hsub : (s.hiddenBefore i).Sublist s.numbered := by
    rw [hiddenBefore, ← List.reverse_sublist, List.reverse_reverse]
    exact (List.takeWhile_sublist _).trans (List.take_sublist _ _).reverse
  exact (pairwise_numbered s).sublist hsub

/-- So are hidden tokens after it. -/
theorem pairwise_hiddenAfter (s : TokenStream) (i : Nat) : (s.hiddenAfter i).Pairwise Before :=
  (pairwise_numbered s).sublist ((List.takeWhile_sublist _).trans (List.drop_sublist _ _))

theorem nodup_hiddenBefore (s : TokenStream) (i : Nat) :
    ((s.hiddenBefore i).map Prod.snd).Nodup :=
  List.pairwise_map.2 ((pairwise_hiddenBefore s i).imp Nat.ne_of_lt)

theorem nodup_hiddenAfter (s : TokenStream) (i : Nat) :
    ((s.hiddenAfter i).map Prod.snd).Nodup :=
  List.pairwise_map.2 ((pairwise_hiddenAfter s i).imp Nat.ne_of_lt)

/-! ## What terminals take in -/

/-- The token at a place that becomes a leaf, if there is one. -/
def leafAt? (s : TokenStream) (i : Nat) : Option SourceToken :=
  (s.tokens[i]?).filter fun t => !t.isEnd

theorem leafAt?_eq_some {t : SourceToken} :
    s.leafAt? i = some t ↔ s.tokens[i]? = some t ∧ ¬t.isEnd := by
  rw [leafAt?, Option.filter_eq_some_iff, Bool.not_eq_true', Bool.not_eq_true]

/-- What a terminal takes in, and what is placed afterwards. -/
def around (s : TokenStream) (placed : List Nat) (i : Nat) : List (SourceToken × Nat) × List Nat :=
  match s.leafAt? i with
  | none => ([], placed)
  | some t =>
    let before := Importer.unplaced placed (s.hiddenBefore i)
    let placed := (before.map Prod.snd).reverse ++ placed
    let after := Importer.unplaced placed (s.hiddenAfter i)
    (before ++ (t, i) :: after, (after.map Prod.snd).reverse ++ placed)

/-- What terminals take in one after another, and what is placed afterwards. -/
def gather (s : TokenStream) (placed : List Nat) : List Nat → List (SourceToken × Nat) × List Nat
  | [] => ([], placed)
  | i :: is =>
    let first := s.around placed i
    let rest := s.gather first.2 is
    (first.1 ++ rest.1, rest.2)

/-- Terminals that come later take in what earlier ones left. -/
theorem gather_append (s : TokenStream) : ∀ (is js placed : List Nat),
    s.gather placed (is ++ js) =
      ((s.gather placed is).1 ++ (s.gather (s.gather placed is).2 js).1,
        (s.gather (s.gather placed is).2 js).2)
  | [], js, placed => rfl
  | i :: is, js, placed => by
    rw [List.cons_append, gather, gather, gather_append s is]
    simp

/-- A hidden token stands directly beside a place. -/
def Beside (s : TokenStream) (i : Nat) (x : SourceToken × Nat) : Prop :=
  x ∈ s.hiddenBefore i ∨ x ∈ s.hiddenAfter i

theorem Beside.mem_numbered (h : s.Beside i x) : x ∈ s.numbered := by
  rcases h with h | h
  · exact (mem_hiddenBefore.1 h).1
  · exact (mem_hiddenAfter.1 h).1

theorem Beside.isHidden (h : s.Beside i x) : x.1.isHidden := by
  rcases h with h | h
  · obtain ⟨hx, hlt, hall⟩ := mem_hiddenBefore.1 h
    exact hall x hx (Nat.le_refl _) hlt
  · obtain ⟨hx, hlt, hall⟩ := mem_hiddenAfter.1 h
    exact hall x hx hlt (Nat.le_refl _)

/-- What is left of a run is what has no place yet. -/
theorem mem_unplaced {placed : List Nat} {run : List (SourceToken × Nat)} :
    x ∈ Importer.unplaced placed run ↔ x ∈ run ∧ x.2 ∉ placed := by
  simp [Importer.unplaced]

variable {placed : List Nat} {t : SourceToken}

/-- The tokens that a terminal takes in: its own one and those beside it that are not placed. -/
theorem mem_around (ht : s.leafAt? i = some t) :
    x ∈ (s.around placed i).1 ↔ x = (t, i) ∨ (s.Beside i x ∧ x.2 ∉ placed) := by
  have hdisjoint : ∀ y ∈ s.hiddenBefore i, x ∈ s.hiddenAfter i → x.2 ≠ y.2 := by
    intro y hy hx
    have := (mem_hiddenBefore.1 hy).2.1
    have := (mem_hiddenAfter.1 hx).2.1
    omega
  simp only [around, ht, List.mem_append, List.mem_cons, mem_unplaced, List.mem_reverse,
    List.mem_map, Beside]
  constructor
  · rintro (⟨hx, hplaced⟩ | rfl | ⟨hx, hplaced⟩)
    · exact Or.inr ⟨Or.inl hx, hplaced⟩
    · exact Or.inl rfl
    · exact Or.inr ⟨Or.inr hx, fun h => hplaced (Or.inr h)⟩
  · rintro (rfl | ⟨hx | hx, hplaced⟩)
    · exact Or.inr (Or.inl rfl)
    · exact Or.inl ⟨hx, hplaced⟩
    · refine Or.inr (Or.inr ⟨hx, ?_⟩)
      rintro (⟨y, ⟨hy, -⟩, heq⟩ | h)
      · exact hdisjoint y hy hx heq.symm
      · exact hplaced h

/-- After a terminal, all hidden tokens beside it are placed. -/
theorem mem_around_placed (ht : s.leafAt? i = some t) {j : Nat} :
    j ∈ (s.around placed i).2 ↔ j ∈ placed ∨ ∃ x, s.Beside i x ∧ x.2 = j := by
  simp only [around, ht, List.mem_append, mem_unplaced, List.mem_reverse, List.mem_map, Beside]
  constructor
  · rintro (⟨x, ⟨hx, -⟩, rfl⟩ | ⟨x, ⟨hx, -⟩, rfl⟩ | h)
    · exact Or.inr ⟨x, Or.inr hx, rfl⟩
    · exact Or.inr ⟨x, Or.inl hx, rfl⟩
    · exact Or.inl h
  · rintro (h | ⟨x, hx | hx, rfl⟩)
    · exact Or.inr (Or.inr h)
    · by_cases hplaced : x.2 ∈ placed
      · exact Or.inr (Or.inr hplaced)
      · exact Or.inr (Or.inl ⟨x, ⟨hx, hplaced⟩, rfl⟩)
    · by_cases hplaced : (∃ y, (y ∈ s.hiddenBefore i ∧ y.2 ∉ placed) ∧ y.2 = x.2) ∨ x.2 ∈ placed
      · exact Or.inr hplaced
      · exact Or.inl ⟨x, ⟨hx, hplaced⟩, rfl⟩

/-- What terminals take in is their own tokens and all that stands beside one of them and was not
placed before. -/
theorem mem_gather : ∀ {is placed : List Nat}, x ∈ (s.gather placed is).1 ↔
    ∃ i ∈ is, ∃ t, s.leafAt? i = some t ∧ (x = (t, i) ∨ (s.Beside i x ∧ x.2 ∉ placed))
  | [], placed => by simp [gather]
  | i :: is, placed => by
    rw [gather, List.mem_append, mem_gather, List.exists_mem_cons_iff]
    cases ht : s.leafAt? i with
    | none => simp [around, ht]
    | some t =>
      rw [mem_around ht]
      simp only [mem_around_placed ht, Option.some.injEq, exists_eq_left', not_or]
      constructor
      · rintro (h | ⟨j, hj, u, hu, h | ⟨h, hplaced, -⟩⟩)
        · exact Or.inl h
        · exact Or.inr ⟨j, hj, u, hu, Or.inl h⟩
        · exact Or.inr ⟨j, hj, u, hu, Or.inr ⟨h, hplaced⟩⟩
      · rintro (h | ⟨j, hj, u, hu, h | ⟨h, hplaced⟩⟩)
        · exact Or.inl h
        · exact Or.inr ⟨j, hj, u, hu, Or.inl h⟩
        · -- a token that also stands beside the first terminal was taken in there
          by_cases hfirst : ∃ y, s.Beside i y ∧ y.2 = x.2
          · obtain ⟨y, hy, heq⟩ := hfirst
            rw [eq_of_mem_numbered hy.mem_numbered h.mem_numbered heq] at hy
            exact Or.inl (Or.inr ⟨hy, hplaced⟩)
          · exact Or.inr ⟨j, hj, u, hu, Or.inr ⟨h, hplaced, hfirst⟩⟩

/-! ## The order of what is taken in -/

/-- A token of the stream that the parser sees. -/
def IsMain (s : TokenStream) (x : SourceToken × Nat) : Prop :=
  x ∈ s.numbered ∧ ¬x.1.isHidden

/-- Between a main token and what stands beside another place there is no way across the token. -/
theorem IsMain.lt_iff_of_beside (hy : s.IsMain y) (hx : s.Beside i x) (hne : y.2 ≠ i) :
    y.2 < x.2 ↔ y.2 < i := by
  rcases hx with hx | hx
  · obtain ⟨-, hlt, hall⟩ := mem_hiddenBefore.1 hx
    refine ⟨fun h => Nat.lt_trans h hlt, fun h => Nat.lt_of_not_le fun hle => ?_⟩
    exact hy.2 (hall y hy.1 hle h)
  · obtain ⟨-, hlt, hall⟩ := mem_hiddenAfter.1 hx
    refine ⟨fun h => Nat.lt_of_not_le fun hle => ?_, fun h => Nat.lt_trans h hlt⟩
    exact hy.2 (hall y hy.1 (Nat.lt_of_le_of_ne hle (Ne.symm hne)) (Nat.le_of_lt h))

theorem pairwise_around (s : TokenStream) (placed : List Nat) (i : Nat) :
    (s.around placed i).1.Pairwise Before := by
  cases ht : s.leafAt? i with
  | none =>
    simp only [around, ht]
    exact .nil
  | some t =>
    simp only [around, ht]
    refine List.pairwise_append.2 ⟨(pairwise_hiddenBefore s i).filter _,
      List.pairwise_cons.2 ⟨fun x hx => ?_, (pairwise_hiddenAfter s i).filter _⟩,
      fun x hx => List.forall_mem_cons.2 ⟨?_, fun y hy => ?_⟩⟩
    · exact (mem_hiddenAfter.1 (mem_unplaced.1 hx).1).2.1
    · exact (mem_hiddenBefore.1 (mem_unplaced.1 hx).1).2.1
    · exact Nat.lt_trans (mem_hiddenBefore.1 (mem_unplaced.1 hx).1).2.1
        (mem_hiddenAfter.1 (mem_unplaced.1 hy).1).2.1

/-- What stands beside a main token and also beside a later one is only taken in at the first. -/
theorem before_of_beside {j : Nat} {u : SourceToken} (hi : s.IsMain (t, i)) (hj : s.IsMain (u, j))
    (hij : i < j) (hx : x = (t, i) ∨ s.Beside i x)
    (hy : y = (u, j) ∨ (s.Beside j y ∧ ¬s.Beside i y)) :
    x.2 < y.2 := by
  have hne : (t, i).2 ≠ j := Nat.ne_of_lt hij
  rcases hx with rfl | hx
  · rcases hy with rfl | ⟨hy, -⟩
    · exact hij
    · exact (hi.lt_iff_of_beside hy hne).2 hij
  · rcases hy with rfl | ⟨hy, hfirst⟩
    · have hle := mt (hj.lt_iff_of_beside hx (Ne.symm hne)).1 (Nat.lt_asymm hij)
      refine Nat.lt_of_le_of_ne (Nat.not_lt.1 hle) fun heq => ?_
      rw [← eq_of_mem_numbered hx.mem_numbered hj.1 heq] at hj
      exact hj.2 hx.isHidden
    · have hiy : i < y.2 := (hi.lt_iff_of_beside hy hne).2 hij
      rcases hx with hx | hx
      · exact Nat.lt_trans (mem_hiddenBefore.1 hx).2.1 hiy
      · -- else the later token would stand beside the first place too
        refine Nat.lt_of_not_le fun hle => hfirst (Or.inr ?_)
        obtain ⟨-, -, hall⟩ := mem_hiddenAfter.1 hx
        exact mem_hiddenAfter.2 ⟨hy.mem_numbered, hiy,
          fun z hz hiz hzy => hall z hz hiz (Nat.le_trans hzy hle)⟩

/-- Terminals at main tokens in order take in tokens in order. -/
theorem pairwise_gather : ∀ {is placed : List Nat}, is.Pairwise (· < ·) →
    (∀ i ∈ is, ∀ t, s.leafAt? i = some t → s.IsMain (t, i)) →
      (s.gather placed is).1.Pairwise Before
  | [], placed, _, _ => .nil
  | i :: is, placed, hsorted, hmain => by
    obtain ⟨hfirst, hsorted⟩ := List.pairwise_cons.1 hsorted
    obtain ⟨hi, hmain⟩ := List.forall_mem_cons.1 hmain
    refine List.pairwise_append.2 ⟨s.pairwise_around placed i, pairwise_gather hsorted hmain, ?_⟩
    intro x hx y hy
    cases ht : s.leafAt? i with
    | none => simp [around, ht] at hx
    | some t =>
      obtain ⟨j, hj, u, hu, hy⟩ := mem_gather.1 hy
      refine before_of_beside (hi t ht) (hmain j hj u hu) (hfirst j hj) ?_ ?_
      · exact ((mem_around ht).1 hx).imp_right And.left
      · refine hy.imp_right fun ⟨hy, hplaced⟩ => ⟨hy, fun hboth => hplaced ?_⟩
        exact (mem_around_placed ht).2 (Or.inr ⟨y, hboth, rfl⟩)

/-! ## Windows -/

/-- The main tokens of a part of the stream. -/
def mains (s : TokenStream) (a b : Nat) : List (SourceToken × Nat) :=
  s.entire.filter fun x => !x.1.isHidden && decide (a ≤ x.2) && decide (x.2 < b)

/-- Whether a token comes after all main tokens before a part of the stream and before all main
tokens after the part. -/
def isWithin (s : TokenStream) (a b : Nat) (x : SourceToken × Nat) : Bool :=
  decide (∀ y ∈ s.entire, ¬y.1.isHidden → (y.2 < a → y.2 < x.2) ∧ (b ≤ y.2 → x.2 < y.2))

/-- The tokens around and inside a part of the stream, without an end mark that the parser sees. -/
def window (s : TokenStream) (a b : Nat) : List (SourceToken × Nat) :=
  s.entire.filter fun x => s.isWithin a b x && decide ¬(x.1.isEnd ∧ ¬x.1.isHidden)

variable {a b : Nat}

/-- Which tokens are the main ones of a window. -/
theorem mem_mains : x ∈ s.mains a b ↔ x ∈ s.entire ∧ ¬x.1.isHidden ∧ a ≤ x.2 ∧ x.2 < b := by
  simp [mains, and_assoc]

/-- A window reaches up to the main tokens that are outside, and holds no end of file. -/
theorem mem_window : x ∈ s.window a b ↔ x ∈ s.entire ∧ ¬(x.1.isEnd ∧ ¬x.1.isHidden) ∧
    ∀ y ∈ s.entire, ¬y.1.isHidden → (y.2 < a → y.2 < x.2) ∧ (b ≤ y.2 → x.2 < y.2) := by
  simp only [window, isWithin, List.mem_filter, Bool.and_eq_true, decide_eq_true_eq]
  exact and_congr_right fun _ => and_comm

theorem pairwise_mains (s : TokenStream) (a b : Nat) :
    ((s.mains a b).map Prod.snd).Pairwise (· < ·) :=
  List.pairwise_map.2 ((pairwise_zipIdx _).filter _)

theorem pairwise_window (s : TokenStream) (a b : Nat) : (s.window a b).Pairwise Before :=
  (pairwise_zipIdx _).filter _

/-- What becomes a leaf at a place of a main token is that token. -/
theorem isMain_of_mem_mains (hx : x ∈ s.mains a b) (ht : s.leafAt? x.2 = some t) :
    x.1 = t ∧ s.IsMain x ∧ ¬t.isEnd := by
  obtain ⟨hentire, hhidden, -, -⟩ := mem_mains.1 hx
  obtain ⟨htoken, hend⟩ := leafAt?_eq_some.1 ht
  obtain ⟨hx', hle⟩ := mem_entire.1 hentire
  rw [List.getElem?_append_left (List.getElem?_eq_some_iff.1 htoken).1, htoken] at hx'
  obtain rfl := Option.some.inj hx'
  exact ⟨rfl, ⟨mem_numbered.2 ⟨htoken, hle⟩, hhidden⟩, hend⟩

/-- The end mark after all tokens comes after them. -/
theorem isMain_or_last (hx : x ∈ s.entire) (hhidden : ¬x.1.isHidden) :
    s.IsMain x ∨ ∀ y ∈ s.numbered, y.2 < x.2 := by
  rcases Nat.lt_or_ge x.2 s.tokens.length with hlt | hge
  · obtain ⟨htoken, hle⟩ := mem_entire.1 hx
    rw [List.getElem?_append_left hlt] at htoken
    exact Or.inl ⟨mem_numbered.2 ⟨htoken, hle⟩, hhidden⟩
  · refine Or.inr fun y hy => Nat.lt_of_lt_of_le ?_ hge
    exact (List.getElem?_eq_some_iff.1 (mem_numbered.1 hy).1).1

/-- The main tokens of a window are in it, except for an end of file. -/
theorem mem_window_of_mem_mains (hx : x ∈ s.mains a b) (hend : ¬x.1.isEnd) : x ∈ s.window a b := by
  obtain ⟨hentire, -, ha, hb⟩ := mem_mains.1 hx
  exact mem_window.2 ⟨hentire, fun h => hend h.1, fun y _ _ => ⟨by omega, by omega⟩⟩

/-- What stands beside a main token of a part is in the window of the part. -/
theorem mem_window_of_beside {m : SourceToken × Nat} (hm : m ∈ s.mains a b) (hmain : s.IsMain m)
    (hx : s.Beside m.2 x) : x ∈ s.window a b := by
  obtain ⟨-, -, ha, hb⟩ := mem_mains.1 hm
  refine mem_window.2 ⟨mem_entire_of_mem_numbered hx.mem_numbered, fun h => h.2 hx.isHidden, ?_⟩
  intro y hy hhidden
  rcases isMain_or_last hy hhidden with hy | hlast
  · constructor
    · intro hya
      exact (hy.lt_iff_of_beside hx (by omega)).2 (by omega)
    · intro hby
      have hle : ¬y.2 < x.2 := fun h => by
        have := (hy.lt_iff_of_beside hx (by omega)).1 h
        omega
      refine Nat.lt_of_le_of_ne (Nat.not_lt.1 hle) fun heq => ?_
      rw [eq_of_mem_numbered hx.mem_numbered hy.1 heq] at hx
      exact hy.2 hx.isHidden
  · refine ⟨fun hya => ?_, fun _ => hlast x hx.mem_numbered⟩
    have := hlast m hmain.1
    omega

/-- A hidden token in the window of a part stands beside the main token of the part that is nearest
to it. -/
theorem exists_beside_of_mem_window (hx : x ∈ s.window a b) (hhidden : x.1.isHidden)
    (hleaf : ∃ m ∈ s.mains a b, ¬m.1.isEnd) :
    ∃ m ∈ s.mains a b, ¬m.1.isEnd ∧ s.Beside m.2 x := by
  obtain ⟨hentire, hend, hwithin⟩ := mem_window.1 hx
  have hnumbered := mem_numbered_of_mem_entire hentire hend
  let distance (m : SourceToken × Nat) : Nat := (m.2 - x.2) + (x.2 - m.2)
  obtain ⟨m, ⟨hm, hmend⟩, hnearest⟩ := (measure distance).wf.has_min
    {m | m ∈ s.mains a b ∧ ¬m.1.isEnd} hleaf
  obtain ⟨hmentire, hmhidden, hma, hmb⟩ := mem_mains.1 hm
  have hmnumbered := mem_numbered_of_mem_entire hmentire fun h => hmend h.1
  -- a main token between the two would be in the part and nearer
  have hbetween : ∀ y ∈ s.numbered, (m.2 < y.2 ∧ y.2 < x.2) ∨ (x.2 < y.2 ∧ y.2 < m.2) →
      y.1.isHidden := by
    intro y hy hyx
    by_contra hyhidden
    have hyentire := mem_entire_of_mem_numbered hy
    obtain ⟨hya, hyb⟩ := hwithin y hyentire hyhidden
    have hlast : y.2 < s.last := by
      have := (mem_numbered.1 hnumbered).2
      have := (mem_numbered.1 hmnumbered).2
      omega
    have hyend : ¬y.1.isEnd := fun h =>
      absurd (last_le_of_isEnd (mem_numbered.1 hy).1 h) (Nat.not_le.2 hlast)
    have hymain : y ∈ s.mains a b := by
      refine mem_mains.2 ⟨hyentire, hyhidden, ?_, ?_⟩
      · by_contra hlt
        have := hya (Nat.not_le.1 hlt)
        omega
      · by_contra hge
        have := hyb (Nat.not_lt.1 hge)
        omega
    refine hnearest y ⟨hymain, hyend⟩ ?_
    simp only [WellFoundedRelation.rel, InvImage, distance]
    omega
  refine ⟨m, hm, hmend, ?_⟩
  rcases Nat.lt_trichotomy m.2 x.2 with hlt | heq | hgt
  · refine Or.inr (mem_hiddenAfter.2 ⟨hnumbered, hlt, fun y hy hmy hyx => ?_⟩)
    rcases Nat.lt_or_eq_of_le hyx with hyx | hyx
    · exact hbetween y hy (Or.inl ⟨hmy, hyx⟩)
    · rwa [eq_of_mem_numbered hy hnumbered hyx]
  · rw [eq_of_mem_numbered hmnumbered hnumbered heq] at hmhidden
    exact absurd hhidden hmhidden
  · refine Or.inl (mem_hiddenBefore.2 ⟨hnumbered, hgt, fun y hy hxy hym => ?_⟩)
    rcases Nat.lt_or_eq_of_le hxy with hxy | hxy
    · exact hbetween y hy (Or.inr ⟨hxy, hym⟩)
    · rwa [← eq_of_mem_numbered hnumbered hy hxy]

/-- Terminals at the main tokens of a part take in the window of the part. -/
theorem gather_mains (hleaf : ∃ m ∈ s.mains a b, ¬m.1.isEnd) :
    (s.gather [] ((s.mains a b).map Prod.snd)).1 = s.window a b := by
  have hmain : ∀ i ∈ (s.mains a b).map Prod.snd, ∀ t, s.leafAt? i = some t → s.IsMain (t, i) := by
    intro i hi t ht
    obtain ⟨m, hm, rfl⟩ := List.mem_map.1 hi
    obtain ⟨rfl, hmain, -⟩ := isMain_of_mem_mains hm ht
    exact hmain
  have hgather : (s.gather [] ((s.mains a b).map Prod.snd)).1.Pairwise Before :=
    pairwise_gather (s.pairwise_mains a b) hmain
  have hwindow := s.pairwise_window a b
  have hnodup {l : List (SourceToken × Nat)} (h : l.Pairwise Before) : l.Nodup := by
    refine List.Pairwise.imp (fun {x y} (hxy : x.2 < y.2) heq => ?_) h
    rw [heq] at hxy
    exact Nat.lt_irrefl _ hxy
  refine List.Perm.eq_of_pairwise (fun x y _ _ hxy hyx => absurd hyx (before_asymm x y hxy)) hgather
    hwindow ((List.perm_ext_iff_of_nodup (hnodup hgather) (hnodup hwindow)).2 fun x => ?_)
  rw [mem_gather]
  constructor
  · rintro ⟨i, hi, t, ht, hx⟩
    obtain ⟨m, hm, rfl⟩ := List.mem_map.1 hi
    obtain ⟨rfl, hmain, hend⟩ := isMain_of_mem_mains hm ht
    rcases hx with rfl | ⟨hx, -⟩
    · exact mem_window_of_mem_mains hm hend
    · exact mem_window_of_beside hm hmain hx
  · intro hx
    by_cases hhidden : x.1.isHidden
    · obtain ⟨m, hm, hend, hbeside⟩ := exists_beside_of_mem_window hx hhidden hleaf
      have hnumbered := mem_numbered_of_mem_entire (mem_mains.1 hm).1 fun h => hend h.1
      exact ⟨m.2, List.mem_map_of_mem hm, m.1,
        leafAt?_eq_some.2 ⟨(mem_numbered.1 hnumbered).1, hend⟩, Or.inr ⟨hbeside, nofun⟩⟩
    · obtain ⟨hentire, hend, hwithin⟩ := mem_window.1 hx
      obtain ⟨ha, hb⟩ := hwithin x hentire hhidden
      have hm : x ∈ s.mains a b := mem_mains.2 ⟨hentire, hhidden, by omega, by omega⟩
      have hnumbered := mem_numbered_of_mem_entire hentire hend
      exact ⟨x.2, List.mem_map_of_mem hm, x.1,
        leafAt?_eq_some.2 ⟨(mem_numbered.1 hnumbered).1, fun h => hend ⟨h, hhidden⟩⟩, Or.inl rfl⟩

end TokenStream

end JavaText
