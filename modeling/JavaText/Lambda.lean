import JavaText.Canonical.Draft
import JavaText.Node

/-!
# Lambda expressions

A view of a lambda expression that takes it apart into its parameters and its body, where the body
is an expression or a block of statements. A method reference is a lambda without parameters whose
body is the reference itself. White space and comments do not matter anywhere.
-/

namespace JavaText

/-- The body of a lambda: an expression, or the statements of a block. A lambda whose body is
missing has no statements. -/
inductive LambdaBody (ν : Type)
  | expression (e : ν)
  | statements (ss : List ν)
  deriving DecidableEq, Repr

/-- The parts of a lambda. -/
structure LambdaView (ν : Type) where
  /-- The names of the parameters; one can be missing if a token has no text. -/
  parameters : List (Option Text)
  /-- Whether some parameter is declared with a type. -/
  typed : Bool
  /-- The body. -/
  body : LambdaBody ν
  deriving DecidableEq, Repr

/-- Why there is no view of a node. -/
inductive LambdaError
  | wrongKind (kind : Option Kind)
  | access (failure : AccessFailure)
  | namelessParameter
  deriving DecidableEq, Repr

namespace LambdaError

/-- The message about a node of the wrong kind. -/
def wrongKindMessage (kind : Option Kind) : Text :=
  Kind.describe? kind
    ++ Text.ofString " is neither a lambda expression nor a method reference."

end LambdaError

namespace LambdaView

variable {ν : Type}

/-- A lambda of which nothing is known yet. -/
def blank : LambdaView ν :=
  { parameters := [], typed := false, body := .statements [] }

/-! ## Parameters -/

/-- The texts of the identifiers among some nodes. -/
def identifierTexts (access : NodeAccess ν) : List ν → Except AccessFailure (List (Option Text))
  | [] => .ok []
  | n :: ns => do
    if (← access.kind n) = some (.token .identifier) then
      let text ← access.text n
      let texts ← identifierTexts access ns
      return text :: texts
    else identifierTexts access ns

/-- Whether there is a type among some nodes. -/
def hasType (access : NodeAccess ν) : List ν → Except AccessFailure Bool
  | [] => .ok false
  | n :: ns => do
    if (← access.kind n) = some (.construct .typeUse) then return true
    else hasType access ns

/-- Add a parameter. An identifier on its own is a name without a type; a declaration gives its
last identifier. -/
def addParameter (access : NodeAccess ν) (n : ν) (view : LambdaView ν) :
    Except AccessFailure (LambdaView ν) := do
  if access.role n = .token then
    if (← access.kind n) = some (.token .identifier) then
      return { view with parameters := view.parameters ++ [← access.text n] }
    else return view
  else if (← access.kind n) = some (.construct .parameter) then
    let children ← access.children n
    let names ← identifierTexts access children
    let typed ← hasType access children
    return { view with
      parameters := view.parameters ++ names.getLast?.toList
      typed := view.typed || typed }
  else return view

/-- Add the parameters of a list. -/
def addParameters (access : NodeAccess ν) :
    List ν → LambdaView ν → Except AccessFailure (LambdaView ν)
  | [], view => .ok view
  | n :: ns, view => do addParameters access ns (← addParameter access n view)

/-! ## The body -/

/-- The constructs among some nodes. -/
def constructs (access : NodeAccess ν) (ns : List ν) : List ν :=
  ns.filter fun n => access.role n = .construct

/-- The body that a node is: the statements of a block, or an expression. -/
def bodyOf (access : NodeAccess ν) (n : ν) : Except AccessFailure (LambdaBody ν) := do
  if (← access.kind n) = some (.construct .codeBlock) then
    return .statements (constructs access (← access.children n))
  else return .expression n

/-- Go through the children of a lambda. The body is the first node after the arrow that is no
trivia and no list of parameters. -/
def takeApart (access : NodeAccess ν) (afterArrow : Bool) :
    List ν → LambdaView ν → Except AccessFailure (LambdaView ν)
  | [], view => .ok view
  | n :: ns, view => do
    let kind ← access.kind n
    if kind = some (.construct .parameterList) then
      takeApart access afterArrow ns (← addParameters access (← access.children n) view)
    else if kind = some (.token (.symbol .arrow)) then takeApart access true ns view
    else if afterArrow && !Kind.isTrivia kind then
      return { view with body := ← bodyOf access n }
    else takeApart access afterArrow ns view

/-- The view of a node. -/
def of (access : NodeAccess ν) (n : ν) : Except LambdaError (LambdaView ν) :=
  match access.kind n with
  | .error failure => .error (.access failure)
  | .ok kind =>
    if kind = some (.construct .methodReferenceExpression) then
      .ok { parameters := [], typed := false, body := .expression n }
    else if kind = some (.construct .lambdaExpression) then
      match access.children n with
      | .error failure => .error (.access failure)
      | .ok children => (takeApart access false children blank).mapError .access
    else .error (.wrongKind kind)

/-! ## The view as text -/

/-- The expression that the body is. -/
def expression? (view : LambdaView ν) : Option ν :=
  match view.body with
  | .expression e => some e
  | .statements _ => none

/-- The statements of the body. -/
def statements (view : LambdaView ν) : List ν :=
  match view.body with
  | .expression _ => []
  | .statements ss => ss

/-- The names of the parameters, if all of them have one. -/
def names? (view : LambdaView ν) : Option (List Text) :=
  view.parameters.mapM id

/-- The parameters as text: names between commas, in parentheses if they have types, and an arrow
unless there is nothing before it. -/
def signature (typed : Bool) (names : List Text) : Text :=
  let list := Text.join ", " names
  let list := if typed then Text.ofString "(" ++ list ++ Text.ofString ")" else list
  if typed || !names.isEmpty then list ++ Text.ofString " -> " else list

/-- The view with the nodes of its body replaced by what a function gives for them. -/
def map {μ : Type} (f : ν → μ) (view : LambdaView ν) : LambdaView μ :=
  { parameters := view.parameters
    typed := view.typed
    body := match view.body with
      | .expression e => .expression (f e)
      | .statements ss => .statements (ss.map f) }

/-- The view with the nodes of its body replaced by what a function gives for them, if it does. -/
def mapExcept {ε μ : Type} (f : ν → Except ε μ) (view : LambdaView ν) :
    Except ε (LambdaView μ) := do
  let body ← match view.body with
    | .expression e => LambdaBody.expression <$> f e
    | .statements ss => LambdaBody.statements <$> ss.mapM f
  return { parameters := view.parameters, typed := view.typed, body }

/-- The text of a view of which the body is already text. -/
def text (view : LambdaView Text) : Except LambdaError Text :=
  match view.names? with
  | none => .error .namelessParameter
  | some names =>
    .ok (signature view.typed names ++
      match view.body with
      | .expression e => e
      | .statements ss => ss.flatten)

end LambdaView

/-! ## Lambdas in trees -/

/-- What can be asked of a subtree in its place. -/
def Focus.access : NodeAccess Focus where
  role f := match f.tree with
    | .token _ => .token
    | .construct _ _ => .construct
  kind f := .ok f.tree.kind
  text f := match f.tree with
    | .token t => .ok t.text
    | .construct _ _ => .error .absent
  children f := .ok f.children

/-- The lambda that a subtree is. -/
def Focus.lambda (f : Focus) : Except LambdaError (LambdaView Focus) :=
  LambdaView.of Focus.access f

end JavaText
