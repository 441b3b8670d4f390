import JavaText.Command.Log
import JavaText.Text.Number

/-!
# Tools, options and settings

There are two tools: one writes the canonical texts of trees to files, the other compares two
trees. Each has its options, and a setting for each of them that the user may leave as it is.
-/

namespace JavaText

/-! ## Tools -/

/-- The tools. -/
inductive Tool
  | serialize
  | compare
  deriving DecidableEq, Repr

namespace Tool

/-- The name of the package that the tools belong to. -/
def package : Text := "canonjava"

/-- The version of the tools. -/
def version : Text := "1.0.0"

/-- What a tool is called among the tools. -/
def name : Tool → Text
  | serialize => "serialize"
  | compare => "compare"

/-- The tool of a name. -/
def ofName? (n : Text) : Option Tool :=
  [serialize, compare].find? fun t => t.name == n

/-- The name of a tool on the command line. -/
def program (t : Tool) : Text :=
  package ++ Text.ofString "-" ++ t.name

/-- The line that tells a tool and its version. -/
def banner (t : Tool) : Text :=
  t.program ++ Text.ofString " " ++ version ++ Text.ofString "\n"

end Tool

/-! ## Options -/

/-- The options of the tools. -/
inductive CliOption
  | help
  | input
  | pattern
  | extension
  | out
  | serializer
  | treeFormat
  | encoding
  | encodingErrors
  | jobs
  | searchPath
  | depthLimit
  | logLevel
  | verbose
  | quiet
  | version
  | diff
  deriving DecidableEq, Repr

/-- How many arguments an option takes. -/
inductive Arity
  | flag
  | single
  | several
  deriving DecidableEq, Repr

namespace CliOption

/-- The names of an option. -/
def names : CliOption → List String
  | help => ["-h", "--help"]
  | input => ["-i", "--input"]
  | pattern => ["--glob"]
  | extension => ["--ext"]
  | out => ["-o", "--out"]
  | serializer => ["-s", "--serializer"]
  | treeFormat => ["--tree-format"]
  | encoding => ["--encoding"]
  | encodingErrors => ["--encoding-errors"]
  | jobs => ["-j", "--jobs"]
  | searchPath => ["--sys-path"]
  | depthLimit => ["--sys-recursion-limit"]
  | logLevel => ["--log-level"]
  | verbose => ["-v", "--verbose"]
  | quiet => ["-q", "--quiet"]
  | version => ["--version"]
  | diff => ["--diff"]

/-- How many arguments an option takes. -/
def arity : CliOption → Arity
  | help | verbose | quiet | version | diff => .flag
  | input | pattern => .several
  | _ => .single

end CliOption

namespace Tool

/-- The options of a tool. -/
def options : Tool → List CliOption
  | serialize => [.help, .input, .pattern, .extension, .out, .serializer, .treeFormat, .encoding,
      .encodingErrors, .jobs, .searchPath, .depthLimit, .logLevel, .verbose, .quiet, .version]
  | compare => [.help, .diff, .serializer, .treeFormat, .searchPath, .depthLimit, .logLevel,
      .verbose, .quiet, .version]

/-- Whether a tool takes two files besides its options. -/
def takesFiles : Tool → Bool
  | serialize => false
  | compare => true

/-- The options of a tool by their names. -/
def named (t : Tool) : List (Text × CliOption) :=
  t.options.flatMap fun o => o.names.map fun n => (Text.ofString n, o)

/-- The option of a tool with exactly this name. -/
def option? (t : Tool) (name : Text) : Option CliOption :=
  t.named.lookup name

/-- The options of a tool whose names start so. -/
def optionsFrom (t : Tool) (start : Text) : List CliOption :=
  (t.named.filter fun (name, _) => name.startsWith start).map Prod.snd

end Tool

/-! ## Settings -/

/-- How trees are stored in files. -/
inductive TreeFormat
  | document
  | snapshot
  deriving DecidableEq, Repr

/-- The format of a name. -/
def TreeFormat.ofName? (n : Text) : Option TreeFormat :=
  ([("json", document), ("pickle", snapshot)] : List (Text × TreeFormat)).lookup n

/-- What the user asks for. An option can be given the separator of the command line for an
argument, which leaves it without a value; only the extension is then written as the empty list that
this is. -/
structure Settings where
  /-- The files to process. -/
  inputs : List Text
  /-- The patterns of more files to process. -/
  patterns : List Text
  /-- The extension of the files to write. -/
  extension : Text
  /-- The directory of the files to write. -/
  out : Text
  /-- The name of what makes texts of trees. -/
  serializer : Text
  /-- How trees are stored. -/
  format : TreeFormat
  /-- The name of the encoding of the files to write. -/
  encoding : Text
  /-- The name of what is done about characters that do not fit. -/
  handler : Text
  /-- How many files are processed at a time, if that is given. -/
  jobs : Option Int
  /-- The limit on the depth of calls, if one is given. -/
  depthLimit : Option Int
  /-- How heavy a message must be to be shown. -/
  level : Level
  /-- Whether a comparison shows the difference. -/
  showDiff : Bool
  /-- The options that were given without a value. -/
  blank : List CliOption
  deriving DecidableEq, Repr

/-- The word after which all words of a command line are arguments. -/
def separator : Text := "--"

/-- Why the reading of a command line ends before its end. -/
inductive Stop
  | misuse
  | version
  | help
  deriving DecidableEq, Repr

namespace Settings

/-- The settings of a user who asks for nothing. -/
def standard : Settings :=
  { inputs := []
    patterns := []
    extension := ".txt"
    out := "."
    serializer := Tool.package ++ Text.ofString ".runtime.canonical_serializer"
    format := .document
    encoding := "utf-8"
    handler := "strict"
    jobs := none
    depthLimit := none
    level := .info
    showDiff := false
    blank := [] }

/-- Whether several files are processed at a time; they are unless the user asks for one. -/
def isParallel (s : Settings) : Bool :=
  match s.jobs with
  | none => true
  | some n => decide (1 < n)

/-- The settings once an option has a value. -/
def filled (s : Settings) (o : CliOption) : Settings :=
  { s with blank := s.blank.filter (· != o) }

/-- The settings once an option is given without a value. -/
def blanked (s : Settings) (o : CliOption) : Settings :=
  { s with blank := o :: s.blank }

/-- How an extension without a value is written. -/
def blankExtension : Text := "[]"

/-- The settings after an option with its arguments. -/
def apply (s : Settings) : CliOption → List Text → Except Stop Settings
  | .help, _ => .error .help
  | .version, _ => .error .version
  | .verbose, _ => .ok { s.filled .logLevel with level := .debug }
  | .quiet, _ => .ok { s.filled .logLevel with level := .disable }
  | .diff, _ => .ok { s with showDiff := true }
  | .input, ts => .ok { s with inputs := ts }
  | .pattern, ts => .ok { s with patterns := ts }
  | .searchPath, _ => .ok s
  | .extension, [] => .ok { s with extension := blankExtension }
  | .extension, t :: _ => .ok { s with extension := t }
  | .out, t :: _ => .ok { s.filled .out with out := t }
  | .serializer, t :: _ => .ok { s.filled .serializer with serializer := t }
  | .encoding, t :: _ => .ok { s.filled .encoding with encoding := t }
  | .encodingErrors, t :: _ => .ok { s.filled .encodingErrors with handler := t }
  | .treeFormat, t :: _ =>
    orMisuse (TreeFormat.ofName? t) fun f => { s.filled .treeFormat with format := f }
  | .logLevel, t :: _ =>
    orMisuse (Level.ofName? t) fun l => { s.filled .logLevel with level := l }
  | .jobs, t :: _ => orMisuse t.int? fun n => { s.filled .jobs with jobs := some n }
  | .depthLimit, t :: _ =>
    orMisuse t.int? fun n => { s.filled .depthLimit with depthLimit := some n }
  | o, [] => .ok (s.blanked o)
where
  /-- Use an argument if it means something. -/
  orMisuse {α : Type} (value : Option α) (use : α → Settings) : Except Stop Settings :=
    match value with
    | some a => .ok (use a)
    | none => .error .misuse

/-- The settings after several options. The first separator among the arguments of an option is not
one of them. -/
def applyAll (s : Settings) : List (CliOption × List Text) → Except Stop Settings
  | [] => .ok s
  | (o, ts) :: rest =>
    match s.apply o (ts.erase separator) with
    | .error stop => .error stop
    | .ok s => s.applyAll rest

end Settings

end JavaText
