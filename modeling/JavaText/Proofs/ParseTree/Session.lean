import JavaText.ParseTree.Import
import Mathlib.Data.List.Basic

/-!
# One importer for many trees

`Importer.session` makes each import from the start and finds out afterwards which of the names that
led nowhere are new. An importer can also be one object that is used again and again: it keeps
the names that it has reported, looks there whenever a name leads nowhere, even in the middle of
an import that may still fail, and forgets from one tree to the next only which hidden tokens it
has placed (`Importer.reuse`). Both come to the same (`Importer.reuse_eq_session`): what is kept has
no influence on a tree, since a step takes a ledger that follows the progress of a single import
to one that follows it still (`Import.Tracks`).

So an importer may be used again (`Importer.session_reuse`). Each result is that of an importer of
its own, and over the whole session each name that led nowhere is reported once, where it was first
looked up.
-/

namespace JavaText

/-! ## Names once each -/

namespace Importer

variable {seen seen' : List Text} {n : Text} {ns : List Text}

/-- A name that was seen before is left out. -/
theorem fresh_cons_of_mem (h : n ∈ seen) : fresh seen (n :: ns) = fresh seen ns := by
  rw [fresh, if_pos (List.contains_iff_mem.2 h)]

/-- A name that is new is kept, and is seen from then on. -/
theorem fresh_cons_of_notMem (h : n ∉ seen) :
    fresh seen (n :: ns) = n :: fresh (n :: seen) ns := by
  rw [fresh, if_neg (by simpa using h)]

/-- It does not matter in which order names were seen, or how often. -/
theorem fresh_congr : ∀ {ns seen seen' : List Text}, (∀ n, n ∈ seen ↔ n ∈ seen') →
    fresh seen ns = fresh seen' ns
  | [], _, _, _ => rfl
  | n :: ns, seen, seen', h => by
    by_cases hn : n ∈ seen
    · rw [fresh_cons_of_mem hn, fresh_cons_of_mem ((h n).1 hn), fresh_congr h]
    · rw [fresh_cons_of_notMem hn, fresh_cons_of_notMem (mt (h n).2 hn)]
      have h' : ∀ m, m ∈ n :: seen ↔ m ∈ n :: seen' := by simp [h]
      rw [fresh_congr h']

/-- The new names are those that were not seen before. -/
theorem mem_fresh : ∀ {ns seen : List Text} {m : Text}, m ∈ fresh seen ns ↔ m ∈ ns ∧ m ∉ seen
  | [], seen, m => by simp [fresh]
  | n :: ns, seen, m => by
    by_cases hn : n ∈ seen
    · rw [fresh_cons_of_mem hn, mem_fresh]
      grind
    · rw [fresh_cons_of_notMem hn, List.mem_cons, mem_fresh]
      grind

/-- Each new name is kept once. -/
theorem nodup_fresh : ∀ {ns seen : List Text}, (fresh seen ns).Nodup
  | [], seen => List.nodup_nil
  | n :: ns, seen => by
    by_cases hn : n ∈ seen
    · rw [fresh_cons_of_mem hn]
      exact nodup_fresh
    · rw [fresh_cons_of_notMem hn]
      exact List.nodup_cons.2 ⟨fun h => (mem_fresh.1 h).2 (List.mem_cons_self ..), nodup_fresh⟩

/-- What is new in a second list is new to the first one, too. -/
theorem fresh_append : ∀ {ns ms seen : List Text},
    fresh seen (ns ++ ms) = fresh seen ns ++ fresh (fresh seen ns ++ seen) ms
  | [], ms, seen => rfl
  | n :: ns, ms, seen => by
    rw [List.cons_append]
    by_cases hn : n ∈ seen
    · rw [fresh_cons_of_mem hn, fresh_cons_of_mem hn, fresh_append]
    · have hseen : ∀ m, m ∈ fresh (n :: seen) ns ++ n :: seen ↔
          m ∈ n :: fresh (n :: seen) ns ++ seen := by simp [or_left_comm]
      rw [fresh_cons_of_notMem hn, fresh_cons_of_notMem hn, fresh_append, fresh_congr hseen]
      rfl

/-- The names that are left stand in the order of their first places. -/
theorem pairwise_fresh : ∀ {ns seen : List Text},
    (fresh seen ns).Pairwise fun a b => ns.idxOf a < ns.idxOf b
  | [], seen => List.Pairwise.nil
  | n :: ns, seen => by
    -- The names after the first are others, so their places move by one.
    have hmoved : ∀ {seen' : List Text}, n ∈ seen' →
        (fresh seen' ns).Pairwise fun a b => (n :: ns).idxOf a < (n :: ns).idxOf b := by
      intro seen' hn
      refine pairwise_fresh.imp_of_mem fun {a b} ha hb hab => ?_
      have hna : n ≠ a := fun h => (mem_fresh.1 ha).2 (h ▸ hn)
      have hnb : n ≠ b := fun h => (mem_fresh.1 hb).2 (h ▸ hn)
      rw [List.idxOf_cons_ne _ hna, List.idxOf_cons_ne _ hnb]
      omega
    by_cases hn : n ∈ seen
    · rw [fresh_cons_of_mem hn]
      exact hmoved hn
    · rw [fresh_cons_of_notMem hn]
      refine List.pairwise_cons.2 ⟨fun b hb => ?_, hmoved (List.mem_cons_self ..)⟩
      have hnb : n ≠ b := fun h => (mem_fresh.1 hb).2 (h ▸ List.mem_cons_self ..)
      rw [List.idxOf_cons_self, List.idxOf_cons_ne _ hnb]
      omega

end Importer

/-! ## What an importer keeps -/

/-- What an importer keeps that is used for one tree after another. -/
structure Ledger where
  /-- The places of the hidden tokens that are in the tree that is being made. -/
  placed : List Nat
  /-- The names that are known to lead to no kind. -/
  known : List Text
  /-- The names that were reported, in order. -/
  reported : List Text
  /-- The names that led nowhere, once for each look-up, in order. -/
  missed : List Text

namespace Ledger

/-- Nothing is known yet. -/
def start : Ledger :=
  { placed := [], known := [], reported := [], missed := [] }

/-- A name leads to no kind; it is reported unless that is known. -/
def miss (g : Ledger) (name : Text) : Ledger :=
  if g.known.contains name then { g with missed := g.missed ++ [name] }
  else
    { g with
      known := name :: g.known
      reported := g.reported ++ [name]
      missed := g.missed ++ [name] }

/-- Note what a look-up found. -/
def note (l : Label) (g : Ledger) : Ledger :=
  match l.unknown? with
  | some name => g.miss name
  | none => g

/-- Mark a hidden token as placed. -/
def place (i : Nat) (g : Ledger) : Ledger :=
  { g with placed := i :: g.placed }

/-- Begin another tree. -/
def renew (g : Ledger) : Ledger :=
  { g with placed := [] }

/-- The ledger in which an import ends that comes so far on its own. -/
def after (g : Ledger) (p : Progress) : Ledger :=
  { p.unknown.foldl miss g with placed := p.placed }

end Ledger

instance : Record Ledger where
  note := Ledger.note
  place := Ledger.place
  placed := Ledger.placed

/-- A step of an importer that keeps a ledger. -/
abbrev Keeping := Recorded Ledger

namespace Importer

/-- Import a parse tree with what was kept before. The outcome is the tree, if there is one, or the
failure, and what is kept now. -/
def buildAgain (imp : Importer) (g : Ledger) (t : ParseTree) :
    Except ImportError (Option Tree) × Ledger :=
  match (imp.piece t : Keeping Piece).run g.renew with
  | (.ok p, g') => (.ok p.root?, g')
  | (.error e, g') => (.error e, g')

/-- Import one parse tree after another, whether or not they fail. The outcome is what each import
gives and what is kept after all of them. -/
def reuse (imp : Importer) (g : Ledger) :
    List ParseTree → List (Except ImportError (Option Tree)) × Ledger
  | [] => ([], g)
  | t :: ts =>
    let (result, g') := imp.buildAgain g t
    let (results, g'') := reuse imp g' ts
    (result :: results, g'')

end Importer

/-! ## Ledgers that follow an import -/

namespace Ledger

open Importer

variable {g : Ledger}

/-- Missing a name that is known is not reported. -/
theorem miss_of_mem {n : Text} (h : n ∈ g.known) :
    g.miss n = { g with missed := g.missed ++ [n] } := by
  rw [miss, if_pos (List.contains_iff_mem.2 h)]

/-- Missing a name for the first time is reported, and makes it known. -/
theorem miss_of_notMem {n : Text} (h : n ∉ g.known) :
    g.miss n = { g with
      known := n :: g.known, reported := g.reported ++ [n], missed := g.missed ++ [n] } := by
  rw [miss, if_neg (by simpa using h)]

theorem miss_placed (g : Ledger) (places : List Nat) (n : Text) :
    { g with placed := places }.miss n = { g.miss n with placed := places } := by
  by_cases h : n ∈ g.known
  · rw [miss_of_mem h]
    exact miss_of_mem h
  · rw [miss_of_notMem h]
    exact miss_of_notMem h

/-- Noting a label goes along with the import that the ledger follows. -/
theorem note_after (g : Ledger) (l : Label) (p : Progress) :
    (g.after p).note l = g.after (p.note l) := by
  cases l with
  | known k =>
    change g.after p = { (p.unknown ++ []).foldl miss g with placed := p.placed }
    rw [List.append_nil]
    rfl
  | unknown n =>
    change (g.after p).miss n = { (p.unknown ++ [n]).foldl miss g with placed := p.placed }
    rw [List.foldl_append]
    exact miss_placed _ _ _

/-- Of names that led nowhere those are reported that were not known, and all are known then. -/
theorem foldl_miss : ∀ (ns : List Text) (g : Ledger),
    (ns.foldl miss g).reported = g.reported ++ fresh g.known ns ∧
    (∀ n, n ∈ (ns.foldl miss g).known ↔ n ∈ g.known ∨ n ∈ ns) ∧
    (ns.foldl miss g).missed = g.missed ++ ns
  | [], g => by simp [fresh]
  | n :: ns, g => by
    obtain ⟨hreported, hknown, hmissed⟩ := foldl_miss ns (g.miss n)
    rw [List.foldl_cons, hreported, hmissed]
    by_cases h : n ∈ g.known
    · rw [miss_of_mem h] at hknown ⊢
      rw [fresh_cons_of_mem h]
      refine ⟨rfl, fun m => (hknown m).trans ?_, by simp⟩
      grind
    · rw [miss_of_notMem h] at hknown ⊢
      rw [fresh_cons_of_notMem h]
      refine ⟨by simp, fun m => (hknown m).trans ?_, by simp⟩
      grind

end Ledger

namespace Import

variable {α β : Type} {g : Ledger}

/-- A step that keeps a ledger gives what a step of a single import gives, and takes a ledger that
follows the progress of the import to one that follows it still. -/
def Tracks (g : Ledger) (x : Import α) (y : Keeping α) : Prop :=
  ∀ p, y.run (g.after p) = ((x.run p).1, g.after (x.run p).2)

theorem tracks_pure (a : α) : Tracks g (pure a) (pure a) := fun _ => rfl

theorem tracks_throw (e : ImportError) : Tracks (α := α) g (throw e) (throw e) := fun _ => rfl

/-- A change of the ledger follows the change of the progress that does the same. -/
theorem tracks_modify {f : Progress → Progress} {f' : Ledger → Ledger}
    (h : ∀ p, f' (g.after p) = g.after (f p)) : Tracks g (modify f) (modify f') := by
  intro p
  change ((.ok ⟨⟩, f' (g.after p)) : Except ImportError PUnit × Ledger) = (.ok ⟨⟩, g.after (f p))
  rw [h]

/-- Steps that follow one another are followed step by step. -/
theorem Tracks.bind {x : Import α} {y : Keeping α} {f : α → Import β} {f' : α → Keeping β}
    (hx : Tracks g x y) (hf : ∀ a, Tracks g (f a) (f' a)) : Tracks g (x >>= f) (y >>= f') := by
  intro p
  have hbind : (x >>= f).run p = ExceptT.bindCont f (x.run p).1 (x.run p).2 := rfl
  have hbind' : (y >>= f').run (g.after p) =
      ExceptT.bindCont f' (y.run (g.after p)).1 (y.run (g.after p)).2 := rfl
  rw [hbind, hbind', hx p]
  rcases x.run p with ⟨e | a, p'⟩
  · rfl
  · exact hf a p'

/-- A step that looks at the progress is followed by one that looks at the ledger. -/
theorem tracks_get {f : Progress → Import α} {f' : Ledger → Keeping α}
    (h : ∀ p, Tracks g (f p) (f' (g.after p))) : Tracks g (get >>= f) (get >>= f') :=
  fun p => h p p

theorem Tracks.ite {c : Prop} [Decidable c] {x x' : Import α} {y y' : Keeping α}
    (h : Tracks g x y) (h' : Tracks g x' y') :
    Tracks g (if c then x else x') (if c then y else y') := by
  split
  · exact h
  · exact h'

end Import

namespace Importer

open Import

variable {imp : Importer} {g : Ledger}

/-- The ledger follows the import of a token. -/
theorem tracks_token (t : SourceToken) : Tracks g (imp.token t) (imp.token t) := by
  unfold token
  cases imp.naming.tokenLabel? (imp.grammar.tokenName t.number) t.text with
  | none => exact tracks_throw _
  | some l => exact (tracks_modify fun p => g.note_after l p).bind fun _ => tracks_pure _

/-- It follows the import of a run of hidden tokens. -/
theorem tracks_hidden : ∀ run : List (SourceToken × Nat),
    Tracks g (imp.hidden run) (imp.hidden run)
  | [] => tracks_pure _
  | (t, i) :: run => by
    refine tracks_get fun p => (tracks_hidden run).ite ?_
    refine (tracks_token t).bind fun tree => ?_
    refine (tracks_modify fun p => rfl).bind fun _ => ?_
    exact (tracks_hidden run).bind fun trees => tracks_pure _

/-- It follows the import of a terminal, with the hidden tokens beside it. -/
theorem tracks_terminal (t : SourceToken) (place : Option Nat) :
    Tracks g (imp.terminal t place) (imp.terminal t place) := by
  refine (tracks_pure _).ite ((tracks_token t).bind fun tree => (tracks_pure _).ite ?_)
  cases place with
  | none => exact tracks_throw _
  | some i =>
    refine (tracks_throw _).ite ?_
    refine (tracks_hidden _).bind fun before => (tracks_hidden _).bind fun after => ?_
    exact tracks_pure _

mutual

/-- It follows the import of a whole tree. -/
theorem tracks_piece : ∀ t : ParseTree, Tracks g (imp.piece t) (imp.piece t)
  | .terminal i => by
    rw [piece, piece]
    cases imp.stream.tokens[i]? with
    | none => exact tracks_pure _
    | some t => exact tracks_terminal t _
  | .missing t => by
    rw [piece, piece]
    exact tracks_terminal t _
  | .foreign nodeType => by
    rw [piece, piece]
    exact tracks_throw _
  | .rule number nodeType ts => by
    rw [piece, piece]
    cases imp.grammar.ruleName? number with
    | none => exact tracks_throw _
    | some name =>
      refine (tracks_modify fun p => g.note_after _ p).bind fun _ => ?_
      refine (tracks_pieces ts).bind fun children => ?_
      cases (imp.naming.ruleLabel name nodeType).kind with
      | none => exact tracks_pure _
      | some k => exact tracks_pure _

theorem tracks_pieces : ∀ ts : List ParseTree, Tracks g (imp.pieces ts) (imp.pieces ts)
  | [] => by
    rw [pieces, pieces]
    exact tracks_pure _
  | t :: ts => by
    rw [pieces, pieces]
    refine (tracks_piece t).bind fun first => (tracks_pieces ts).bind fun rest => ?_
    exact tracks_pure _

end

/-- An import with what was kept before gives what an import on its own gives, and leaves a ledger
that knows also the names that led nowhere in it. -/
theorem buildAgain_eq (t : ParseTree) :
    imp.buildAgain g t = ((imp.build t).1, g.after (imp.build t).2) := by
  have h : (imp.piece t : Keeping Piece).run g.renew = _ := tracks_piece t .start
  rw [buildAgain, h, build]
  rcases (imp.piece t : Import Piece).run .start with ⟨e | q, p⟩
  · rfl
  · rfl

/-! ## Sessions -/

/-- An importer that is used again gives what a session gives, and reports the same names. -/
theorem reuse_eq_session : ∀ (ts : List ParseTree) {g : Ledger} {seen : List Text},
    (∀ n, n ∈ g.known ↔ n ∈ seen) →
    (imp.reuse g ts).1 = (imp.session seen ts).map Outcome.result ∧
      (imp.reuse g ts).2.reported = g.reported ++ (imp.session seen ts).flatMap Outcome.reported
  | [], g, seen, _ => by simp [reuse, session]
  | t :: ts, g, seen, h => by
    obtain ⟨hreported, hknown, -⟩ := g.foldl_miss (imp.build t).2.unknown
    have hseen : ∀ n, n ∈ (g.after (imp.build t).2).known ↔
        n ∈ fresh seen (imp.build t).2.unknown ++ seen := by
      intro n
      rw [List.mem_append, mem_fresh, ← h]
      refine (hknown n).trans ?_
      grind
    obtain ⟨hresults, hnames⟩ := reuse_eq_session ts hseen
    rw [reuse, buildAgain_eq, session]
    refine ⟨congrArg _ hresults, hnames.trans ?_⟩
    change (List.foldl Ledger.miss g _).reported ++ _ = _
    rw [hreported, fresh_congr h, List.flatMap_cons, List.append_assoc]

/-- The look-ups of an importer that is used again are those of the imports on their own. -/
theorem missed_reuse : ∀ {ts : List ParseTree} {g : Ledger},
    (imp.reuse g ts).2.missed = g.missed ++ ts.flatMap fun t => (imp.build t).2.unknown
  | [], g => by simp [reuse]
  | t :: ts, g => by
    obtain ⟨-, -, hmissed⟩ := g.foldl_miss (imp.build t).2.unknown
    have ih : (imp.reuse (g.after (imp.build t).2) ts).2.missed = _ := missed_reuse
    rw [reuse, buildAgain_eq]
    refine ih.trans ?_
    change (List.foldl Ledger.miss g _).missed ++ _ = _
    rw [hmissed, List.flatMap_cons, List.append_assoc]

/-- The results of a session are those of separate imports. -/
theorem session_results : ∀ {ts : List ParseTree} {seen : List Text},
    (imp.session seen ts).map Outcome.result = ts.map fun t => (imp.build t).1
  | [], _ => rfl
  | _ :: _, _ => congrArg _ session_results

/-- A session reports each name that some import misses once, and where it is missed first. -/
theorem session_reported : ∀ {ts : List ParseTree} {seen : List Text},
    (imp.session seen ts).flatMap Outcome.reported =
      fresh seen (ts.flatMap fun t => (imp.build t).2.unknown)
  | [], _ => rfl
  | t :: ts, seen => by
    rw [List.flatMap_cons, fresh_append, ← session_reported]
    rfl

/-- An importer may be used again. What it gives for a tree, failures included, is what an importer
of its own gives for that tree, and it reports each name that led nowhere once, in the order of the
first look-ups, whether or not the import that made the look-up came to an end. -/
theorem session_reuse (imp : Importer) (ts : List ParseTree) :
    let outcomes := imp.session [] ts
    let kept := imp.reuse .start ts
    kept.1 = outcomes.map Outcome.result ∧
    (outcomes.flatMap fun o => o.reported.map report) = kept.2.reported.map report ∧
    (∀ k : Nat, kept.1[k]? = ts[k]?.map fun t => (imp.build t).1) ∧
    (∀ k : Nat, kept.1[k]? = ts[k]?.bind fun t => (imp.reuse .start [t]).1.head?) ∧
    kept.2.missed = (ts.flatMap fun t => (imp.build t).2.unknown) ∧
    kept.2.reported.Nodup ∧
    (∀ name, name ∈ kept.2.reported ↔ name ∈ kept.2.missed) ∧
    kept.2.reported.Pairwise fun a b => kept.2.missed.idxOf a < kept.2.missed.idxOf b := by
  intro outcomes kept
  have hsame : kept.1 = outcomes.map Outcome.result ∧
      kept.2.reported = outcomes.flatMap Outcome.reported :=
    reuse_eq_session ts fun n => Iff.rfl
  obtain ⟨hresults, hreported⟩ := hsame
  have hmissed : kept.2.missed = _ := missed_reuse
  have hfresh : kept.2.reported = fresh [] kept.2.missed := by
    rw [hmissed]
    exact hreported.trans session_reported
  have hbuilt : kept.1 = ts.map fun t => (imp.build t).1 := hresults.trans session_results
  refine ⟨hresults, ?_, fun k => ?_, fun k => ?_, hmissed, ?_, fun name => ?_, ?_⟩
  · rw [← List.map_flatMap, hreported]
  · rw [hbuilt, List.getElem?_map]
  · rw [hbuilt, List.getElem?_map]
    cases ts[k]? with
    | none => rfl
    | some t =>
      change some (imp.build t).1 = (imp.reuse .start [t]).1.head?
      rw [reuse, buildAgain_eq]
      rfl
  · rw [hfresh]
    exact nodup_fresh
  · rw [hfresh, mem_fresh]
    simp
  · rw [hfresh]
    exact pairwise_fresh

end Importer

end JavaText
