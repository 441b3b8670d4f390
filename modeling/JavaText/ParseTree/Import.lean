import JavaText.ParseTree.Basic
import JavaText.ParseTree.Naming
import JavaText.Tree.Basic

/-!
# Importing parse trees

An importer makes syntax trees of parse trees. Rules become constructs and terminals become tokens,
with the kinds that a naming gives them. If hidden tokens are wanted, each goes next to the first
terminal that it is beside, and only there.

A name that leads to no kind is kept and noted. What is noted and placed goes into a record, of
whatever type (`Record`). `Importer.build` is one import on its own; `Importer.session` imports one
tree after another and reports each noted name once.
-/

namespace JavaText

/-! ## Failures -/

/-- Why a parse tree cannot be imported. -/
inductive ImportError
  /-- The grammar has no rule of this number. -/
  | unknownRule (number : Int)
  /-- Only the text could tell the kind of a token, and it has none. -/
  | missingText
  /-- Hidden tokens are wanted around a token that the stream, which ends at `last`, lacks. A token
  without a place has the place -1. -/
  | notInStream (place : Int) (last : Nat)
  /-- A node is of a type that parsers do not make. -/
  | foreignNode (nodeType : Text)
  deriving DecidableEq, Repr

/-- The wording of a failure. -/
def ImportError.message : ImportError → Text
  | unknownRule _ => "The grammar has no rule of this number."
  | missingText => "A token without a text has no kind."
  | notInStream place last => Text.ofInt place ++ Text.ofString " not in 0.." ++ Text.ofNat last
  | foreignNode nodeType =>
    Text.ofString "An ANTLR node must either be a ParserRuleContext or a TerminalNode but "
      ++ nodeType ++ Text.ofString " was found."

/-! ## Parts of an import -/

/-- What a node of a parse tree becomes. -/
inductive Piece
  /-- The end mark leaves nothing. -/
  | nothing
  /-- A single tree. -/
  | one (t : Tree)
  /-- Trees for the node above to take in. -/
  | several (ts : List Tree)
  deriving Repr

namespace Piece

/-- The trees of a piece. -/
def trees : Piece → List Tree
  | nothing => []
  | one t => [t]
  | several ts => ts

/-- The whole tree that a piece makes; trees without a node above are put under a file. -/
def root? : Piece → Option Tree
  | nothing => none
  | one t => some t
  | several ts => some (.construct (some (.construct .javaFile)) ts)

end Piece

/-- What can be recorded of an import: which labels were looked up, and which hidden tokens are
placed. -/
class Record (σ : Type) where
  /-- Note what a look-up found. -/
  note : Label → σ → σ
  /-- Mark a hidden token as placed. -/
  place : Nat → σ → σ
  /-- The places of the hidden tokens that are in the tree. -/
  placed : σ → List Nat

/-- A step of an import that is recorded: it moves on, and may fail; what was noted before a failure
stays. -/
abbrev Recorded (σ : Type) := ExceptT ImportError (StateM σ)

/-- How far an import has come. -/
structure Progress where
  /-- The places of the hidden tokens that are in the tree. -/
  placed : List Nat
  /-- The names that led to no kind, in the order of the look-ups. -/
  unknown : List Text
  deriving DecidableEq, Repr

namespace Progress

/-- Nothing is done yet. -/
def start : Progress :=
  { placed := [], unknown := [] }

/-- Note what a look-up found. -/
def note (l : Label) (p : Progress) : Progress :=
  { p with unknown := p.unknown ++ l.unknown?.toList }

/-- Mark a hidden token as placed. -/
def place (i : Nat) (p : Progress) : Progress :=
  { p with placed := i :: p.placed }

end Progress

instance : Record Progress where
  note := Progress.note
  place := Progress.place
  placed := Progress.placed

/-- A step of an import on its own. -/
abbrev Import := Recorded Progress

/-! ## Importing -/

/-- What an import goes by. -/
structure Importer where
  /-- The names of the grammar. -/
  grammar : Grammar
  /-- The kinds that the names stand for. -/
  naming : Naming
  /-- The tokens that the parser read. -/
  stream : TokenStream
  /-- Whether hidden tokens are wanted. -/
  wantsHidden : Bool
  deriving DecidableEq, Repr

namespace Importer

section

variable {σ : Type} [Record σ]

/-- Import a token. -/
def token (imp : Importer) (t : SourceToken) : Recorded σ Tree := do
  match imp.naming.tokenLabel? (imp.grammar.tokenName t.number) t.text with
  | none => throw .missingText
  | some label =>
    modify (Record.note label)
    return .token { kind := label.kind, text := t.text }

/-- Import the hidden tokens that are not placed yet. -/
def hidden (imp : Importer) : List (SourceToken × Nat) → Recorded σ (List Tree)
  | [] => return []
  | (t, i) :: rest => do
    if (Record.placed (← get)).contains i then hidden imp rest
    else
      let tree ← imp.token t
      modify (Record.place i)
      return tree :: (← hidden imp rest)

/-- Import the token at a place, or one that has no place, with the hidden tokens beside it. -/
def terminal (imp : Importer) (t : SourceToken) (place : Option Nat) :
    Recorded σ Piece := do
  if t.isEnd then return .nothing
  let tree ← imp.token t
  if !imp.wantsHidden then return .one tree
  match place with
  | none => throw (.notInStream (-1) imp.stream.last)
  | some i =>
    if imp.stream.last < i then throw (.notInStream i imp.stream.last)
    let before ← imp.hidden (imp.stream.hiddenBefore i)
    let after ← imp.hidden (imp.stream.hiddenAfter i)
    return .several (before ++ tree :: after)

mutual

/-- Import a parse tree. -/
def piece (imp : Importer) : ParseTree → Recorded σ Piece
  | .terminal i =>
    match imp.stream.tokens[i]? with
    | none => return .nothing
    | some t => imp.terminal t (some i)
  | .missing t => imp.terminal t none
  | .foreign nodeType => throw (.foreignNode nodeType)
  | .rule number nodeType ts => do
    match imp.grammar.ruleName? number with
    | none => throw (.unknownRule number)
    | some name =>
      let label := imp.naming.ruleLabel name nodeType
      modify (Record.note label)
      let children ← pieces imp ts
      match label.kind with
      | none => return .several children
      | some k => return .one (.construct (some k) children)

/-- Import several parse trees. -/
def pieces (imp : Importer) : List ParseTree → Recorded σ (List Tree)
  | [] => return []
  | t :: ts => do
    let first ← piece imp t
    let rest ← pieces imp ts
    return first.trees ++ rest

end

end

/-- Import a parse tree from the start. The outcome is the tree, if there is one, or the failure,
and how far it came. -/
def build (imp : Importer) (t : ParseTree) : Except ImportError (Option Tree) × Progress :=
  match (imp.piece t : Import Piece).run .start with
  | (.ok p, progress) => (.ok p.root?, progress)
  | (.error e, progress) => (.error e, progress)

/-! ## Sessions -/

/-- The report of a name that led to no kind. -/
def report (name : Text) : Text :=
  Text.ofString "No kind is known for " ++ name.quoted ++ Text.ofString ", keeping its name."

/-- The names of a list that are not in another, each once, in order. -/
def fresh (seen : List Text) : List Text → List Text
  | [] => []
  | n :: ns => if seen.contains n then fresh seen ns else n :: fresh (n :: seen) ns

/-- What one import of a session gives. -/
structure Outcome where
  /-- The tree, if there is one, or the failure. -/
  result : Except ImportError (Option Tree)
  /-- The names reported during the import. -/
  reported : List Text

/-- Import one parse tree after another. A name is reported only the first time, and a failure does
not end the session. -/
def session (imp : Importer) (seen : List Text) : List ParseTree → List Outcome
  | [] => []
  | t :: ts =>
    let (result, progress) := imp.build t
    let reported := fresh seen progress.unknown
    { result, reported } :: session imp (reported ++ seen) ts

end Importer

end JavaText
