import JavaText.Proofs.Json.Values
import JavaText.Tree.Json

/-!
# Trees written as documents and read back

A document gives kinds by name only, and the type of a node decides what its name is looked up
among. So a tree does not come back as it was but normalized (`Tree.normal`): the label of a token
is the kind of token of its name, that of a construct the kind of construct, and the surrogate pairs
of names and texts are joined. A tree in which a kind or a text is missing does not come back at all
(`Tree.ofJson?_toJson`). Normalizing changes nothing in the document but surrogate pairs, which are
written as they are read (`Tree.toJson_normal`).
-/

namespace JavaText

/-! ## Names of kinds -/

/-- What a list is found to hold for a key, it holds. -/
theorem mem_of_lookup {β : Type} {l : List (Text × β)} {n : Text} {b : β}
    (h : l.lookup n = some b) : (n, b) ∈ l := by
  obtain ⟨l₁, l₂, heq, -⟩ := List.lookup_eq_some_iff.1 h
  simp [heq]

/-- What is found under a name has that name. -/
theorem name_of_lookup {α : Type} {name : α → Text} {ks : List α} {n : Text} {k : α}
    (h : (ks.map fun k => (name k, k)).lookup n = some k) : name k = n := by
  obtain ⟨k', -, hk'⟩ := List.mem_map.1 (mem_of_lookup h)
  obtain ⟨rfl, rfl⟩ := Prod.mk.inj hk'
  rfl

namespace TokenKind

theorem mem_all (k : TokenKind) : k ∈ all := by
  rcases k with t | _ | l | k | s
  · cases t <;> decide
  · decide
  · cases l <;> decide
  · cases k <;> decide
  · cases s <;> decide

/-- Every kind of token is found by its name, which is written in ASCII. -/
theorem ofName?_name (k : TokenKind) : ofName? k.name = some k ∧ k.name.IsAscii := by
  have h : all.all (fun k => ofName? k.name == some k && k.name.all fun c => c.val < 0x80) =
      true := by decide +kernel
  obtain ⟨hname, hascii⟩ := Bool.and_eq_true_iff.1 (List.all_eq_true.1 h k k.mem_all)
  exact ⟨beq_iff_eq.1 hname, Text.isAscii_of_all hascii⟩

theorem name_of_ofName? {n : Text} {k : TokenKind} (h : ofName? n = some k) : k.name = n :=
  name_of_lookup h

end TokenKind

namespace ConstructKind

theorem mem_all (k : ConstructKind) : k ∈ all := by
  cases k <;> decide

/-- Every kind of construct is found by its name, which is written in ASCII. -/
theorem ofName?_name (k : ConstructKind) : ofName? k.name = some k ∧ k.name.IsAscii := by
  have h : all.all (fun k => ofName? k.name == some k && k.name.all fun c => c.val < 0x80) =
      true := by decide +kernel
  obtain ⟨hname, hascii⟩ := Bool.and_eq_true_iff.1 (List.all_eq_true.1 h k k.mem_all)
  exact ⟨beq_iff_eq.1 hname, Text.isAscii_of_all hascii⟩

theorem name_of_ofName? {n : Text} {k : ConstructKind} (h : ofName? n = some k) : k.name = n :=
  name_of_lookup h

end ConstructKind

/-! ## Labels that come back -/

namespace Kind

/-- The label that comes back for the label of a token. -/
def normalOfToken (k : Kind) : Kind :=
  ofTokenName k.name.joinPairs

/-- The label that comes back for the label of a construct. -/
def normalOfConstruct (k : Kind) : Kind :=
  ofConstructName k.name.joinPairs

/-- Whether a label of a token is of the form that is read: a kind of token, or a plain name that
is not one of a kind of token and has no surrogate pair. -/
def isNormalOfToken : Kind → Bool
  | token _ => true
  | construct _ => false
  | plain n => (TokenKind.ofName? n).isNone && !n.hasPair

/-- Whether a label of a construct is of the form that is read: a kind of construct, or a plain name
that is not one of a kind of construct and has no surrogate pair. -/
def isNormalOfConstruct : Kind → Bool
  | token _ => false
  | construct _ => true
  | plain n => (ConstructKind.ofName? n).isNone && !n.hasPair

/-- The name of a token stays plain if no kind of token has it. -/
theorem ofTokenName_eq_plain {n m : Text} :
    ofTokenName n = plain m ↔ TokenKind.ofName? n = none ∧ n = m := by
  unfold ofTokenName
  split
  · next h => simp [h]
  · next h => simp [h]

/-- The kind that a token is read with has the name that was read. -/
theorem name_ofTokenName (n : Text) : (ofTokenName n).name = n := by
  unfold ofTokenName
  split
  · next h => exact TokenKind.name_of_ofName? h
  · rfl

/-- The name of a construct stays plain if no kind of construct has it. -/
theorem ofConstructName_eq_plain {n m : Text} :
    ofConstructName n = plain m ↔ ConstructKind.ofName? n = none ∧ n = m := by
  unfold ofConstructName
  split
  · next h => simp [h]
  · next h => simp [h]

/-- The kind that a construct is read with has the name that was read. -/
theorem name_ofConstructName (n : Text) : (ofConstructName n).name = n := by
  unfold ofConstructName
  split
  · next h => exact ConstructKind.name_of_ofName? h
  · rfl

/-- Which kinds of tokens come back as they are. -/
theorem normalOfToken_eq_iff {k : Kind} : k.normalOfToken = k ↔ k.isNormalOfToken = true := by
  cases k with
  | token k =>
    obtain ⟨hname, hascii⟩ := k.ofName?_name
    have hjoin := Text.joinPairs_eq_iff.2 (Text.hasPair_of_isAscii hascii)
    simp [normalOfToken, name, hjoin, ofTokenName, hname, isNormalOfToken]
  | construct k =>
    refine iff_of_false (fun h => ?_) Bool.false_ne_true
    unfold normalOfToken ofTokenName at h
    split at h <;> cases h
  | plain n =>
    rw [isNormalOfToken, Bool.and_eq_true, Option.isNone_iff_eq_none, Bool.not_eq_true',
      ← Text.joinPairs_eq_iff, normalOfToken, ofTokenName_eq_plain, name]
    exact and_congr_left fun hjoin => by rw [hjoin]

/-- Which kinds of constructs come back as they are. -/
theorem normalOfConstruct_eq_iff {k : Kind} :
    k.normalOfConstruct = k ↔ k.isNormalOfConstruct = true := by
  cases k with
  | token k =>
    refine iff_of_false (fun h => ?_) Bool.false_ne_true
    unfold normalOfConstruct ofConstructName at h
    split at h <;> cases h
  | construct k =>
    obtain ⟨hname, hascii⟩ := k.ofName?_name
    have hjoin := Text.joinPairs_eq_iff.2 (Text.hasPair_of_isAscii hascii)
    simp [normalOfConstruct, name, hjoin, ofConstructName, hname, isNormalOfConstruct]
  | plain n =>
    rw [isNormalOfConstruct, Bool.and_eq_true, Option.isNone_iff_eq_none, Bool.not_eq_true',
      ← Text.joinPairs_eq_iff, normalOfConstruct, ofConstructName_eq_plain, name]
    exact and_congr_left fun hjoin => by rw [hjoin]

end Kind

/-! ## Trees that come back -/

/-- The token that comes back for a token. -/
def Token.normal (t : Token) : Token :=
  { kind := t.kind.map Kind.normalOfToken, text := t.text.map Text.joinPairs }

/-- Whether nothing is missing in a token. -/
def Token.isComplete (t : Token) : Bool :=
  t.kind.isSome && t.text.isSome

namespace Tree

mutual

/-- The tree that comes back for a tree. -/
def normal : Tree → Tree
  | token t => token t.normal
  | construct k ts => construct (k.map Kind.normalOfConstruct) (normalAll ts)

/-- The trees that come back for several trees. -/
def normalAll : List Tree → List Tree
  | [] => []
  | t :: ts => normal t :: normalAll ts

end

mutual

/-- Whether nothing is missing in a tree. -/
def isComplete : Tree → Bool
  | token t => t.isComplete
  | construct k ts => k.isSome && areComplete ts

/-- Whether nothing is missing in several trees. -/
def areComplete : List Tree → Bool
  | [] => true
  | t :: ts => isComplete t && areComplete ts

end

theorem hasNoNumber_toJson_kind (k : Option Kind) : (Kind.toJson k).hasNoNumber := by
  cases k <;> rfl

mutual

/-- No number is in the document of a tree. -/
theorem hasNoNumber_toJson : ∀ t : Tree, t.toJson.hasNoNumber
  | token ⟨k, x⟩ => by cases k <;> cases x <;> rfl
  | construct k ts => by
    simp [toJson, Json.ofConstruct, Json.hasNoNumber, Json.membersHaveNoNumber,
      hasNoNumber_toJson_kind, haveNoNumber_toJsonAll ts]

theorem haveNoNumber_toJsonAll : ∀ ts : List Tree, Json.haveNoNumber (toJsonAll ts)
  | [] => rfl
  | t :: ts => Bool.and_eq_true_iff.2 ⟨hasNoNumber_toJson t, haveNoNumber_toJsonAll ts⟩

end

/-! ## Writing -/

/-- Joining the surrogate pairs of a name is writing the name of the normal kind. -/
theorem joined_toJson_kind {normal : Kind → Kind} (h : ∀ k, (normal k).name = k.name.joinPairs) :
    ∀ k : Option Kind, (Kind.toJson k).joined = Kind.toJson (k.map normal)
  | none => rfl
  | some k => by
    rw [Option.map_some, Kind.toJson, Kind.toJson, h]
    rfl

mutual

/-- The document of the tree that comes back differs from that of the tree in its pairs only. -/
theorem toJson_normal : ∀ t : Tree, t.normal.toJson = t.toJson.joined
  | token ⟨k, x⟩ => by
    have hk := joined_toJson_kind (fun k => Kind.name_ofTokenName k.name.joinPairs) k
    change Json.object [_, (_, Kind.toJson (k.map Kind.normalOfToken)), _] =
      .object [_, (_, (Kind.toJson k).joined), _]
    rw [hk]
    cases x <;> rfl
  | construct k ts => by
    have hk := joined_toJson_kind (fun k => Kind.name_ofConstructName k.name.joinPairs) k
    have ih := toJsonAll_normalAll ts
    change Json.object [_, (_, Kind.toJson (k.map Kind.normalOfConstruct)),
        (_, .array (toJsonAll (normalAll ts)))] =
      .object [_, (_, (Kind.toJson k).joined), (_, .array (Json.joinedAll (toJsonAll ts)))]
    rw [hk, ih]
    rfl

theorem toJsonAll_normalAll : ∀ ts : List Tree,
    toJsonAll (normalAll ts) = Json.joinedAll (toJsonAll ts)
  | [] => rfl
  | t :: ts => by
    rw [normalAll, toJsonAll, toJson_normal t, toJsonAll_normalAll ts]
    rfl

end

/-! ## Reading -/

/-- What is read as trees is the list of them. -/
theorem trees?_map_node : ∀ ts : List Tree, Reading.trees? (ts.map .node) = some ts
  | [] => rfl
  | t :: ts => by
    rw [List.map_cons, Reading.trees?, trees?_map_node ts]
    rfl

/-- Items that are read as nodes are the children of a construct. -/
theorem reading?_array {js : List Json} {ts : List Tree}
    (h : Json.readings? js = some (ts.map .node)) :
    (Json.array js).reading? = some (.nodes ts) := by
  rw [Json.reading?, h, Option.map_some, Reading.ofItems, trees?_map_node]

mutual

/-- A document that was written is read as a node if nothing is missing in the tree. -/
theorem reading?_toJson : ∀ t : Tree,
    t.toJson.joined.reading? = if t.isComplete then some (.node t.normal) else none
  | token ⟨none, none⟩ => rfl
  | token ⟨none, some _⟩ => rfl
  | token ⟨some _, none⟩ => rfl
  | token ⟨some _, some _⟩ => rfl
  | construct k ts => by
    have ih := readings?_toJsonAll ts
    have hobject : (construct k ts).toJson.joined = .object [("t", .string "p"),
        ("n", (Kind.toJson k).joined), ("c", .array (Json.joinedAll (toJsonAll ts)))] := rfl
    rw [hobject, isComplete, Json.reading?]
    cases hts : areComplete ts with
    | true =>
      rw [hts, if_pos rfl] at ih
      simp only [Json.memberReadings?, reading?_array ih]
      cases k <;> rfl
    | false =>
      rw [hts, if_neg Bool.false_ne_true] at ih
      simp only [Json.memberReadings?, Json.reading?, ih]
      cases k <;> rfl

/-- The documents of trees are read as the trees in normal form if all of them are complete. -/
theorem readings?_toJsonAll : ∀ ts : List Tree,
    Json.readings? (Json.joinedAll (toJsonAll ts)) =
      if areComplete ts then some ((normalAll ts).map .node) else none
  | [] => rfl
  | t :: ts => by
    rw [toJsonAll, Json.joinedAll, Json.readings?, reading?_toJson t, readings?_toJsonAll ts,
      areComplete]
    cases t.isComplete <;> cases areComplete ts <;> rfl

end

/-- A document that was written is read as the normalized tree if nothing is missing in the tree,
and else not at all. -/
theorem ofJson?_toJson (t : Tree) :
    ofJson? t.toJson.joined = if t.isComplete then some t.normal else none := by
  rw [ofJson?, reading?_toJson]
  cases t.isComplete <;> rfl

end Tree

end JavaText
