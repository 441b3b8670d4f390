import JavaText.Proofs.Store.Offence
import JavaText.Proofs.Tree.Bytes
import JavaText.Store.RoundTrip

/-!
# Linked nodes stored as documents and restored

Whether the tree below a node comes back from a document, and whether it comes back as it was, can
be seen node by node on the nodes below it: it comes back if none of them lacks a kind or, being a
token, a text (`Store.isComplete_iff`), and it equals what comes back if all of them are of the
form that is read (`Store.agrees_normal_iff`).
-/

namespace JavaText

namespace Store

/-- Whether nothing is missing in a node: it has a kind and, if it is a token, a text. -/
def isComplete (s : Store) (q : Ref) : Bool :=
  (s.kind? q).isSome && (s.role q != .token || (s.text? q).isSome)

/-- Whether a node is of the form that is read: its label is, and a token has no
children and a text without surrogate pairs. -/
def isNormal (s : Store) (q : Ref) : Bool :=
  match s.role q with
  | .token =>
    (s.kind? q).any Kind.isNormalOfToken && (s.childrenOf q).isEmpty && (s.text? q).any (!·.hasPair)
  | .construct => (s.kind? q).any Kind.isNormalOfConstruct
  | _ => false

variable {s : Store}

mutual

/-- Nothing is missing in a tree just if nothing is missing in the nodes that form it. -/
theorem isComplete_iff : ∀ {t : Tree} {r : Ref}, s.holds t r →
    (t.isComplete = true ↔ ∀ q, s.Reaches r q → s.isComplete q = true)
  | .token t, r, h => by
    obtain ⟨hrole, rfl⟩ := holds_token.1 h
    rw [forall_reaches_iff]
    simp [Tree.isComplete, Token.isComplete, isComplete, hrole]
  | .construct k ts, r, h => by
    obtain ⟨hrole, rfl, hts⟩ := holds_construct.1 h
    rw [forall_reaches_iff, Tree.isComplete, Bool.and_eq_true, areComplete_iff hts]
    simp [isComplete, hrole]

theorem areComplete_iff : ∀ {ts : List Tree} {rs : List Ref}, s.holdsAll ts rs →
    (Tree.areComplete ts = true ↔ ∀ p ∈ rs, ∀ q, s.Reaches p q → s.isComplete q = true)
  | [], [], _ => by simp [Tree.areComplete]
  | t :: ts, r :: rs, h => by
    obtain ⟨ht, hts⟩ := holdsAll_cons.1 h
    rw [Tree.areComplete, Bool.and_eq_true, isComplete_iff ht, areComplete_iff hts,
      List.forall_mem_cons]

end

mutual

/-- The tree that comes back equals the one below a node just if the nodes that form it are of the
form that is read. -/
theorem agrees_normal_iff : ∀ {t : Tree} {r : Ref}, s.holds t r → t.isComplete →
    (s.agrees t.normal r = true ↔ ∀ q, s.Reaches r q → s.isNormal q = true)
  | .token t, r, h, hcomplete => by
    obtain ⟨hrole, rfl⟩ := holds_token.1 h
    obtain ⟨hkind, htext⟩ := Bool.and_eq_true_iff.1 hcomplete
    obtain ⟨k, hk⟩ := Option.isSome_iff_exists.1 hkind
    obtain ⟨x, hx⟩ := Option.isSome_iff_exists.1 htext
    dsimp only at hk hx
    rw [forall_reaches_iff]
    simp [Tree.normal, Token.normal, agrees, isNormal, hrole, hk, hx, Kind.normalOfToken_eq_iff,
      Text.joinPairs_eq_iff]
  | .construct k ts, r, h, hcomplete => by
    obtain ⟨hrole, rfl, hts⟩ := holds_construct.1 h
    obtain ⟨hkind, hcomplete⟩ := Bool.and_eq_true_iff.1 hcomplete
    obtain ⟨k, hk⟩ := Option.isSome_iff_exists.1 hkind
    have ih := agreesAll_normalAll_iff hts hcomplete
    rw [forall_reaches_iff]
    simp [Tree.normal, agrees, isNormal, hrole, hk, Kind.normalOfConstruct_eq_iff, ih]

theorem agreesAll_normalAll_iff : ∀ {ts : List Tree} {rs : List Ref}, s.holdsAll ts rs →
    Tree.areComplete ts → (s.agreesAll (Tree.normalAll ts) rs = true ↔
      ∀ p ∈ rs, ∀ q, s.Reaches p q → s.isNormal q = true)
  | [], [], _, _ => by simp [Tree.normalAll, agreesAll]
  | t :: ts, r :: rs, h, hcomplete => by
    obtain ⟨ht, hts⟩ := holdsAll_cons.1 h
    obtain ⟨hct, hcts⟩ := Bool.and_eq_true_iff.1 hcomplete
    rw [Tree.normalAll, agreesAll, Bool.and_eq_true, agrees_normal_iff ht hct,
      agreesAll_normalAll_iff hts hcts, List.forall_mem_cons]

end

/-- Linked nodes that form a tree can always be stored as a document. Under every limit that the
document keeps to they come back unless a kind or a text is missing below the node, and then as the
normalized tree without a parent; this tree equals the one below the node just if all nodes below it
are of the form that is read, and storing it again gives the same bytes. -/
theorem document_round_trip {c : Codec} {t : Tree} {r : Ref} (hc : c.isUsable) (ht : s.holds t r) :
    ∃ bs, s.encode c r = .ok bs ∧ ∀ limit, t.toJson.FitsIn limit →
      (c.decode limit bs = .ok none ↔ ∃ q, s.Reaches r q ∧ s.isComplete q = false) ∧
      ((∀ q, s.Reaches r q → s.isComplete q = true) →
        c.decode limit bs = .ok (some t.normal) ∧
        c.encode t.normal = .ok bs ∧
        s.roundTrip r (.document c limit) = .ok (some (.tree t.normal)) ∧
        (Restored.tree t.normal).hasParent = false ∧
        (s.equalsRestored r (.tree t.normal) = .ok true ↔
          ∀ q, s.Reaches r q → s.isNormal q = true)) := by
  obtain ⟨bs, hencode, hdecode⟩ := Codec.decode_encode hc t
  have hwrite : s.encode c r = .ok bs := by
    rw [encode_of_holds c ht, hencode]
    rfl
  refine ⟨bs, hwrite, fun limit hfits => ?_⟩
  replace hdecode := hdecode limit hfits
  refine ⟨?_, fun hall => ?_⟩
  · rw [hdecode]
    by_cases hcomplete : t.isComplete = true
    · rw [if_pos hcomplete]
      refine iff_of_false (fun h => by cases h) ?_
      rintro ⟨q, hq, hfalse⟩
      rw [(isComplete_iff ht).1 hcomplete q hq] at hfalse
      cases hfalse
    · rw [if_neg hcomplete]
      refine iff_of_true rfl ?_
      rw [isComplete_iff ht] at hcomplete
      obtain ⟨q, hq⟩ := Classical.not_forall.1 hcomplete
      obtain ⟨hreach, hfalse⟩ := Classical.not_imp.1 hq
      exact ⟨q, hreach, Bool.eq_false_iff.2 hfalse⟩
  · have hcomplete := (isComplete_iff ht).2 hall
    rw [if_pos hcomplete] at hdecode
    refine ⟨hdecode, ?_, ?_, rfl, ?_⟩
    · rw [Codec.encode, Codec.writeText_normal]
      exact hencode
    · simp [roundTrip, hwrite, hdecode]
    · rw [← agrees_normal_iff ht hcomplete, equalsRestored, Except.ok.injEq]

/-- A construct that is labelled by a plain name, above a token that is labelled by a kind of
construct, has a surrogate pair in its text and lists a child. -/
def mislabelled : Store :=
  { nodes := #[
      ⟨.construct, .value (.plain "METHOD"), .absent, .value [1], none⟩,
      ⟨.token, .value (.construct .method), .value [.ofNat 0xd83d, .ofNat 0xde00, .ofNat 0xd800],
        .value [2], some 0⟩,
      ⟨.token, .empty, .empty, .value [], some 1⟩] }

/-- The plain name comes back as the kind of construct of that name, the kind of construct on the
token as a plain name, and the text with its surrogates joined; what is below the token is lost. An
array and two objects are open at a time. -/
theorem document_round_trip_mislabelled :
    ∃ bs, mislabelled.encode ⟨"utf-16", "surrogatepass"⟩ 0 = .ok bs ∧
      Codec.decode ⟨"utf-16", "surrogatepass"⟩ (some 3) bs =
        .ok (some (.construct (some (.construct .method))
          [.token ⟨some (.plain "METHOD"), some [.ofNat 0x1f600, .ofNat 0xd800]⟩])) := by
  have hc : Codec.isUsable ⟨"utf-16", "surrogatepass"⟩ = true :=
    Codec.isUsable_of_mem (by decide) (by decide)
  have ht : mislabelled.holds (.construct (some (.plain "METHOD"))
      [.token ⟨some (.construct .method), some [.ofNat 0xd83d, .ofNat 0xde00, .ofNat 0xd800]⟩]) 0 =
        true := by decide +kernel
  obtain ⟨bs, hencode, hback⟩ := document_round_trip hc ht
  obtain ⟨hdecode, -⟩ := (hback (some 3) (by rintro _ ⟨⟩; decide)).2 ((isComplete_iff ht).1 rfl)
  refine ⟨bs, hencode, hdecode.trans ?_⟩
  rw [Except.ok.injEq]
  decide +kernel

end Store

end JavaText
