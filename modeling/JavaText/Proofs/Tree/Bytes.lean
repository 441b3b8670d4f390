import JavaText.Proofs.Json.Parsing
import JavaText.Proofs.Tree.Language
import JavaText.Tree.Codec

/-!
# Trees as bytes

What is read from bytes depends on the text that they spell alone, once the names of the codec are
known (`Codec.decodeBy_of_isKnown`). A text that is a document with nodes only is read as the tree
that it describes if it keeps to the limit, and if it does not, the reader meets the limit
(`Codec.readTextBy_of_allNodes`). A document that keeps to the limit never makes the reader meet it,
whatever is in it. No other text is read as a tree (`Codec.readTextBy_eq_some`).

What is written for a tree is ASCII, so it is the same in every encoding that is known, and reading
the bytes is reading the document (`Codec.decode_encode`).
-/

namespace JavaText

namespace Encoding

/-- Bytes that do not fit lead to a complaint about the handler only if it is unknown. -/
theorem handleBytes_ne_unknown {e : Encoding} {h : Handler} {bs : Bytes} {size : Nat}
    {name : UnknownName} (hh : ∀ n, h ≠ .unknown n) :
    e.handleBytes h bs size ≠ .error (.unknown name) := by
  unfold handleBytes
  cases h with
  | unknown n => exact absurd rfl (hh n)
  | passSurrogates => dsimp only; split <;> exact nofun
  | escapeBytes => dsimp only; split <;> exact nofun
  | _ => exact nofun

theorem decodeFrom_ne_unknown {e : Encoding} {h : Handler} {name : UnknownName}
    (hh : ∀ n, h ≠ .unknown n) : ∀ (fuel : Nat) (bs : Bytes),
      e.decodeFrom h fuel bs ≠ .error (.unknown name)
  | 0, [] | 0, _ :: _ | _ + 1, [] => nofun
  | fuel + 1, a :: rest => by
    have map_ne (f : Text → Text) (bs : Bytes) :
        (e.decodeFrom h fuel bs).map f ≠ .error (.unknown name) := by
      have ih : e.decodeFrom h fuel bs ≠ .error (.unknown name) := decodeFrom_ne_unknown hh fuel bs
      cases hd : e.decodeFrom h fuel bs with
      | ok t => exact nofun
      | error err => rwa [hd] at ih
    rw [decodeFrom]
    split
    · exact map_ne _ _
    · split
      · next herr =>
        intro heq
        cases heq
        exact handleBytes_ne_unknown hh herr
      · exact map_ne _ _

theorem decode_ne_unknown {e : Encoding} {h : Handler} {name : UnknownName}
    (hh : ∀ n, h ≠ .unknown n) (bs : Bytes) : e.decode h bs ≠ .error (.unknown name) :=
  decodeFrom_ne_unknown hh _ _

end Encoding

namespace Codec

variable {c : Codec} {bs : Bytes} {α : Type} {make? : Json → Option α} {limit : Option Nat}
  {text : Text} {j : Json}

/-! ## Names -/

/-- Whether texts of ASCII can be stored: the encoding is known and no name holds the null
character. -/
def isUsable (c : Codec) : Bool :=
  (Encoding.ofName? c.encoding).isSome && !c.hasNull

/-- The common encodings, with whatever handler. -/
theorem isUsable_of_mem {name : String} {handler : Text}
    (h : name ∈ ["utf-8", "utf-16", "utf-16-le", "utf-16-be", "utf-32", "latin-1", "ascii"])
    (hhandler : handler.hasNull = false) : isUsable ⟨name, handler⟩ = true := by
  have hknown : ∀ name ∈
      ["utf-8", "utf-16", "utf-16-le", "utf-16-be", "utf-32", "latin-1", "ascii"],
      (Encoding.ofName? name).isSome = true ∧ (Text.ofString name).hasNull = false := by
    decide +kernel
  obtain ⟨hsome, hnull⟩ := hknown name h
  simp [isUsable, hasNull, hsome, hnull, hhandler]

/-- Whether an encoding and a handler are there for the names of a codec. -/
def isKnown (c : Codec) : Bool :=
  c.isUsable && match Handler.ofName c.handler with
    | .unknown _ => false
    | _ => true

/-- The common encodings with the common handlers. -/
theorem isKnown_of_mem {encoding handler : String}
    (he : encoding ∈ ["utf-8", "utf-16", "utf-16-le", "utf-16-be", "utf-32", "latin-1", "ascii"])
    (hh : handler ∈ ["strict", "surrogatepass", "replace", "ignore"]) :
    isKnown ⟨encoding, handler⟩ = true := by
  have hhandlers : ∀ handler ∈ ["strict", "surrogatepass", "replace", "ignore"],
      (Text.ofString handler).hasNull = false ∧
        (match Handler.ofName handler with
          | .unknown _ => false
          | _ => true) = true := by
    decide +kernel
  obtain ⟨hnull, hknown⟩ := hhandlers handler hh
  rw [isKnown, isUsable_of_mem he hnull, hknown]
  rfl

/-! ## Reading texts -/

/-- The objects that a reader of trees accepts are nodes, and so are those in them. -/
theorem accepts_terms_iff : (terms limit).Accepts j ↔ j.AllNodes := by
  have hread : ∀ j : Json, j.reading?.isSome = true ↔ j.AllNodes := by
    intro j
    rw [Option.isSome_iff_exists]
    exact ⟨fun ⟨r, hr⟩ => (j.reading?_spec.1 r hr).1, j.reading?_spec.2⟩
  constructor
  · intro h members hwithin
    exact (Json.allNodes_object.1 ((hread _).1 (h members hwithin))).1
  · intro h members hwithin
    exact (hread _).2 fun members' hwithin' => h members' (hwithin'.trans hwithin)

/-- A document that keeps to the limit is read as the tree that it describes, if all its objects are
nodes; and if they are not, it is read as no tree. -/
theorem readTextBy_of_fitsIn (make? : Json → Option α) (h : Json.Element text j)
    (hfits : j.FitsIn limit) :
    (j.AllNodes → readTextBy make? limit text = .ok (make? j)) ∧
      (¬j.AllNodes → readTextBy make? limit text = .ok none) := by
  have hjudges := Json.Terms.judges_check (terms limit) 0 j
  rw [Json.Terms.allows_zero_iff, accepts_terms_iff] at hjudges
  rw [readTextBy, h.parse]
  match (terms limit).check 0 j, hjudges with
  | .ok (), ⟨_, hnodes⟩ => exact ⟨fun _ => rfl, fun hnot => absurd hnodes hnot⟩
  | .error .invalid, hnot => exact ⟨fun hnodes => absurd hnodes hnot, fun _ => rfl⟩
  | .error .tooDeep, hdeep => exact absurd hfits hdeep

/-- Where all objects of a document are nodes and it does not keep to the limit, the limit is met.
-/
theorem goesTooDeep_of_not_fitsIn (h : Json.Element text j) (hnodes : j.AllNodes)
    (hfits : ¬j.FitsIn limit) : (terms limit).GoesTooDeep text := by
  have hjudges := Json.Terms.judges_check (terms limit) 0 j
  rw [Json.Terms.allows_zero_iff, accepts_terms_iff] at hjudges
  rw [← Json.parse_eq_tooDeep_iff, h.parse]
  match (terms limit).check 0 j, hjudges with
  | .ok (), ⟨hfits', _⟩ => exact absurd hfits' hfits
  | .error .invalid, hnot => exact absurd hnodes hnot
  | .error .tooDeep, _ => rfl

/-- Reading meets the limit just if the text starts so that it goes too deep. -/
theorem readTextBy_of_goesTooDeep (h : (terms limit).GoesTooDeep text) :
    readTextBy make? limit text = .error .tooDeep := by
  rw [readTextBy, Json.parse_eq_tooDeep_iff.2 h]

/-- A text that is no document of nodes only and within the limit, or whose document makes no tree,
is read as no tree if the limit is not met. -/
theorem readTextBy_eq_none
    (hnot : ∀ j, Json.Element text j → j.AllNodes → j.FitsIn limit → make? j = none)
    (hdeep : ¬(terms limit).GoesTooDeep text) : readTextBy make? limit text = .ok none := by
  rw [← Json.parse_eq_tooDeep_iff] at hdeep
  rw [readTextBy]
  cases hparse : Json.parse (terms limit) text with
  | error flaw =>
    cases flaw with
    | invalid => rfl
    | tooDeep => exact absurd hparse hdeep
  | ok j =>
    obtain ⟨helement, hcheck⟩ := Json.parse_eq_ok_iff.1 hparse
    have hjudges := Json.Terms.judges_check (terms limit) 0 j
    rw [hcheck, Json.Terms.allows_zero_iff, accepts_terms_iff] at hjudges
    dsimp only
    rw [hnot j helement hjudges.2 hjudges.1]

/-! ## Reading bytes -/

/-- The text that bytes spell in the encoding of a codec. -/
def Spells (c : Codec) (bs : Bytes) (t : Text) : Prop :=
  ∃ e, Encoding.ofName? c.encoding = some e ∧ e.decode (.ofName c.handler) bs = .ok t

theorem Spells.unique {t u : Text} (ht : c.Spells bs t) (hu : c.Spells bs u) : t = u := by
  obtain ⟨e, he, ht⟩ := ht
  obtain ⟨e', he', hu⟩ := hu
  obtain rfl : e = e' := Option.some.inj (he.symm.trans he')
  exact Except.ok.inj (ht.symm.trans hu)

/-- Where the names are known, reading bytes is reading the text that they spell, if they spell one.
-/
theorem decodeBy_of_isKnown (make? : Json → Option α) (limit : Option Nat) (hc : c.isKnown)
    (bs : Bytes) :
    (∃ text, c.Spells bs text ∧ c.decodeBy make? limit bs = readTextBy make? limit text) ∨
      ((∀ text, ¬c.Spells bs text) ∧ c.decodeBy make? limit bs = .ok none) := by
  obtain ⟨husable, hhandler⟩ := Bool.and_eq_true_iff.1 hc
  obtain ⟨hsome, hnull⟩ := Bool.and_eq_true_iff.1 husable
  obtain ⟨e, he⟩ := Option.isSome_iff_exists.1 hsome
  have hnull' : c.hasNull = false := by simpa using hnull
  have hh : ∀ n, Handler.ofName c.handler ≠ .unknown n := by
    intro n hn
    rw [hn] at hhandler
    cases hhandler
  cases bs with
  | nil =>
    have hempty : e.decode (.ofName c.handler) [] = .ok [] := by
      rcases e with _ | (_ | _) | (_ | _) | _ | _ <;> rfl
    exact Or.inl ⟨[], ⟨e, he, hempty⟩, rfl⟩
  | cons b bs =>
    rw [decodeBy, hnull', he]
    dsimp only [List.isEmpty_cons, Bool.or_self, Bool.false_eq_true, if_false]
    cases hd : e.decode (.ofName c.handler) (b :: bs) with
    | ok t => exact Or.inl ⟨t, ⟨e, he, hd⟩, rfl⟩
    | error err =>
      refine Or.inr ⟨?_, ?_⟩
      · rintro text ⟨e', he', hspells⟩
        obtain rfl : e = e' := Option.some.inj (he.symm.trans he')
        cases hd.symm.trans hspells
      · cases err with
        | unknown name => exact absurd hd (Encoding.decode_ne_unknown hh _)
        | _ => rfl

/-- Bytes that spell a text are read as the text is. -/
theorem Spells.decodeBy (hspells : c.Spells bs text) (hc : c.isKnown) (make? : Json → Option α)
    (limit : Option Nat) : c.decodeBy make? limit bs = readTextBy make? limit text := by
  rcases decodeBy_of_isKnown make? limit hc bs with ⟨text', hspells', hdecode⟩ | ⟨hnot, -⟩
  · rw [hdecode, hspells'.unique hspells]
  · exact absurd hspells (hnot text)

/-- Bytes that spell no text are read as no tree. -/
theorem decodeBy_of_not_spells (hnot : ∀ text, ¬c.Spells bs text) (hc : c.isKnown)
    (make? : Json → Option α) (limit : Option Nat) : c.decodeBy make? limit bs = .ok none := by
  rcases decodeBy_of_isKnown make? limit hc bs with ⟨text, hspells, -⟩ | ⟨-, hdecode⟩
  · exact absurd hspells (hnot text)
  · exact hdecode

/-- Where the names are known, reading breaks off just if the bytes spell a text that goes too deep.
-/
theorem decodeBy_eq_error_iff (make? : Json → Option α) (limit : Option Nat) (hc : c.isKnown)
    {e : ReadError} : c.decodeBy make? limit bs = .error e ↔
      e = .tooDeep ∧ ∃ text, c.Spells bs text ∧ (terms limit).GoesTooDeep text := by
  rcases decodeBy_of_isKnown make? limit hc bs with ⟨text, hspells, hdecode⟩ | ⟨hnot, hdecode⟩
  · rw [hdecode]
    constructor
    · intro h
      by_cases hdeep : (terms limit).GoesTooDeep text
      · rw [readTextBy_of_goesTooDeep hdeep] at h
        cases h
        exact ⟨rfl, text, hspells, hdeep⟩
      · rw [← Json.parse_eq_tooDeep_iff] at hdeep
        rw [readTextBy] at h
        split at h
        · cases h
        · cases h
        · next hparse => exact absurd hparse hdeep
    · rintro ⟨rfl, text', hspells', hdeep⟩
      rw [← hdecode, hspells'.decodeBy hc, readTextBy_of_goesTooDeep hdeep]
  · rw [hdecode]
    refine iff_of_false (fun h => by cases h) ?_
    rintro ⟨-, text, hspells, -⟩
    exact hnot text hspells

/-! ## Writing -/

theorem writeText_normal (t : Tree) : writeText t.normal = writeText t := by
  rw [writeText, writeText, Tree.toJson_normal, Json.write_joined]

/-- A text in ASCII is written by every codec with an encoding, and read again from the bytes. -/
theorem exists_encodeText {c : Codec} (hc : c.isUsable) {t : Text} (ht : t.IsAscii) :
    ∃ bs, c.encodeText t = .ok bs ∧ (t ≠ [] → ∀ {α : Type} (make? : Json → Option α) limit,
      c.decodeBy make? limit bs = readTextBy make? limit t) := by
  obtain ⟨hsome, hnull⟩ := Bool.and_eq_true_iff.1 hc
  obtain ⟨e, he⟩ := Option.isSome_iff_exists.1 hsome
  have hnull' : c.hasNull = false := by simpa using hnull
  obtain ⟨bs, hencode, hdecode, hne⟩ := e.decode_encode (.ofName c.handler) ht
  refine ⟨bs, ?_, fun hne' α make? limit => ?_⟩
  · rw [encodeText, hnull', he]
    exact hencode
  · rw [decodeBy, hnull', he]
    simp [hne hne', hdecode]

/-- A tree is stored. Reading the bytes gives the normalized tree if nothing is missing in the tree,
and else no tree, under every limit that the document keeps to. -/
theorem decode_encode {c : Codec} (hc : c.isUsable) (t : Tree) :
    ∃ bs, c.encode t = .ok bs ∧ ∀ limit, t.toJson.FitsIn limit →
      c.decode limit bs = .ok (if t.isComplete then some t.normal else none) := by
  have helement := (Json.value_write t.toJson t.hasNoNumber_toJson).toElement
  have hne : writeText t ≠ [] := by
    obtain ⟨x, rest, hw, -⟩ := (Json.value_write t.toJson t.hasNoNumber_toJson).eq_cons
    rw [writeText, hw]
    exact List.cons_ne_nil x rest
  obtain ⟨bs, hencode, hdecode⟩ := exists_encodeText hc (Json.isAscii_write _ t.hasNoNumber_toJson)
  refine ⟨bs, hencode, fun limit hfits => ?_⟩
  rw [← Json.fitsIn_joined] at hfits
  obtain ⟨hnodes, hnot⟩ := readTextBy_of_fitsIn Tree.ofJson? helement hfits
  rw [decode, hdecode hne, ← Tree.ofJson?_toJson]
  by_cases hall : t.toJson.joined.AllNodes
  · exact hnodes hall
  · rw [hnot hall]
    cases hof : Tree.ofJson? t.toJson.joined with
    | none => rfl
    | some u => exact absurd (Tree.ofJson?_eq_some_iff.1 hof).1.allNodes hall

end Codec

end JavaText
