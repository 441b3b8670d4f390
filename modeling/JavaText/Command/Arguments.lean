import JavaText.Command.Settings
import JavaText.Lexeme

/-!
# Reading the command line

Each word of a command line is an option, an argument or the separator after which all words are
arguments. A long option may be shortened as long as only one option starts so, and its argument
may follow in the next word or after an equals sign; short options without arguments may share one
word. `Arguments.read` gives the settings that a command line asks for.
-/

namespace JavaText

namespace Arguments

/-! ## Words -/

/-- A word of a command line. -/
inductive Word
  | argument (t : Text)
  | separator
  /-- An option, whether by its short name, and what is attached to it in the same word. -/
  | option (o : CliOption) (isShort : Bool) (attached : Option Text)
  /-- An option that the tool does not have. -/
  | unknown
  deriving DecidableEq, Repr

/-- What options start with. -/
def dash : CodePoint := '-'

/-- What stands between an option and its argument. -/
def equals : CodePoint := '='

/-- Whether a text is the name of a short option: only one dash comes first. -/
def isShortName (t : Text) : Bool :=
  !t.startsWith [dash, dash]

/-- Negative numbers, which are arguments although they start with a dash. -/
def negativeNumber : Regex :=
  .sequence [
    .lit "-",
    .alt (.plus Lexeme.digit) (.sequence [.star Lexeme.digit, .lit ".", .plus Lexeme.digit]),
    .opt (.lit "\n")]

/-- A word that starts with a dash and is no option of the tool. -/
def strange (t : Text) : Word :=
  if negativeNumber.accepts t || t.contains (CodePoint.ofChar ' ') then .argument t else .unknown

/-- A word that starts with a dash and is not exactly the name of an option; there is no answer if
it could be several. -/
def optionWord? (tool : Tool) (t : Text) : Option Word :=
  let name := t.takeWhile (· != equals)
  let value := match t.dropWhile (· != equals) with
    | [] => none
    | _ :: value => some value
  match tool.option? name with
  | some o => some (.option o (isShortName name) value)
  | none =>
    if isShortName t then
      match tool.option? (t.take 2) with
      | some o => some (.option o true (some (t.drop 2)))
      | none => some (strange t)
    else
      match tool.optionsFrom name with
      | [] => some (strange t)
      | [o] => some (.option o false value)
      | _ => none

/-- What a word is; there is no answer if it could be several options. -/
def word? (tool : Tool) (t : Text) : Option Word :=
  if !t.startsWith [dash] then some (.argument t)
  else match tool.option? t with
    | some o => some (.option o (isShortName t) none)
    | none => if t = [dash] then some (.argument t) else optionWord? tool t

/-- The words of a command line. -/
def words? (tool : Tool) : List Text → Option (List Word)
  | [] => some []
  | t :: ts =>
    if t = separator then some (.separator :: ts.map Word.argument)
    else match word? tool t with
      | none => none
      | some w => (words? tool ts).map (w :: ·)

/-! ## Options with their arguments -/

/-- What an option word stands for. -/
structure Taken where
  /-- The options with their arguments, in order. -/
  options : List (CliOption × List Text)
  /-- The words that follow. -/
  rest : List Word
  deriving DecidableEq, Repr

/-- The arguments at the start of a list of words. -/
def leading : List Word → List Text
  | .argument t :: rest => t :: leading rest
  | _ => []

/-- An option whose arguments are the next words. -/
def takeNext? (o : CliOption) (rest : List Word) : Option Taken :=
  match o.arity with
  | .flag => some { options := [(o, [])], rest }
  | .single =>
    match rest with
    | .argument t :: rest => some { options := [(o, [t])], rest }
    | _ => none
  | .several =>
    match leading rest with
    | [] => none
    | ts => some { options := [(o, ts)], rest := rest.drop ts.length }

/-- An option with the text that is attached to it: its argument, or more short options if it takes
none. -/
def takeAttached? (tool : Tool) (rest : List Word) (o : CliOption) (isShort : Bool) :
    Text → Option Taken
  | [] => if o.arity = .flag then none else some { options := [(o, [[]])], rest }
  | c :: more =>
    if o.arity ≠ .flag then some { options := [(o, [c :: more])], rest }
    else if !isShort then none
    else match tool.option? [dash, c] with
      | none => none
      | some next =>
        let taken := if more.isEmpty then takeNext? next rest
          else takeAttached? tool rest next true more
        taken.map fun taken => { taken with options := (o, []) :: taken.options }

/-- An option with its arguments. -/
def take? (tool : Tool) (rest : List Word) (o : CliOption) (isShort : Bool) :
    Option Text → Option Taken
  | none => takeNext? o rest
  | some attached => takeAttached? tool rest o isShort attached

/-! ## Files -/

/-- A list of words without the separators at its start. -/
def skipSeparators : List Word → List Word
  | .separator :: rest => skipSeparators rest
  | ws => ws

/-- Two arguments at the start of a list of words, with a separator around them or between. -/
def pair? (ws : List Word) : Option ((Text × Text) × List Word) :=
  match skipSeparators ws with
  | .argument a :: rest =>
    match skipSeparators rest with
    | .argument b :: rest => some ((a, b), skipSeparators rest)
    | _ => none
  | _ => none

/-! ## The whole command line -/

/-- What is read so far. -/
structure Reading where
  /-- The settings so far. -/
  settings : Settings
  /-- The two files, if they were there. -/
  files : Option (Text × Text)
  /-- Whether there was a word that has no meaning. -/
  isStray : Bool

/-- Read words. Each round takes at least one of them. -/
def readWords (tool : Tool) : Nat → List Word → Reading → Except Stop Reading
  | 0, _, r => .ok r
  | _, [], r => .ok r
  | fuel + 1, .option o isShort attached :: rest, r =>
    match take? tool rest o isShort attached with
    | none => .error .misuse
    | some taken =>
      match r.settings.applyAll taken.options with
      | .error stop => .error stop
      | .ok settings =>
        readWords tool fuel taken.rest { r with settings }
  | fuel + 1, .unknown :: rest, r => readWords tool fuel rest { r with isStray := true }
  | fuel + 1, w :: rest, r =>
    match if tool.takesFiles && r.files.isNone then pair? (w :: rest) else none with
    | some (files, rest) => readWords tool fuel rest { r with files := some files }
    | none => readWords tool fuel rest { r with isStray := true }

/-- The settings that a command line asks for, and the two files of a tool that takes them. -/
def read (tool : Tool) (args : List Text) : Except Stop (Settings × Option (Text × Text)) :=
  match words? tool args with
  | none => .error .misuse
  | some ws =>
    match readWords tool ws.length ws ⟨.standard, none, false⟩ with
    | .error stop => .error stop
    | .ok r =>
      if r.isStray || (tool.takesFiles && r.files.isNone) then .error .misuse
      else .ok (r.settings, r.files)

end Arguments

end JavaText
