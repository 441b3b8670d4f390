import JavaText.Command.Arguments
import JavaText.Command.Compare
import JavaText.Command.Serialize

/-!
# Running a tool

A run reads the command line and then executes the command that it asks for. A command line that
cannot be read ends the run with status 2 and changes nothing.
-/

namespace JavaText

/-- What a run of a tool leaves behind. -/
structure Outcome where
  /-- The exit status, or why the run broke off. -/
  status : Except CommandError Nat
  /-- What is printed. -/
  output : Text
  /-- The messages that are shown. -/
  log : List Message
  /-- The files after the run. -/
  files : FileSystem

namespace Outcome

/-- A run that ends with the reading of its command line. -/
def ofStop (tool : Tool) (files : FileSystem) : Stop → Outcome
  | .misuse => { status := .ok 2, output := [], log := [], files }
  | .version => { status := .ok 0, output := tool.banner, log := [], files }
  | .help => { status := .ok 0, output := usage tool, log := [], files }
where
  /-- The options of a tool on a line. -/
  usage (tool : Tool) : Text :=
    Text.ofString "usage: " ++ tool.program
      ++ tool.options.flatMap (fun o =>
        Text.ofString (" [" ++ String.intercalate ", " o.names ++ "]"))
      ++ (if tool.takesFiles then Text.ofString " FILE FILE\n" else Text.ofString "\n")

/-- A run that executed a command. -/
def ofResult (limit : Level) (result : Except CommandError Command.Verdict) (w : Workspace) :
    Outcome :=
  { status := result.map fun v => v.status
    output := match result with
      | .ok v => v.output
      | .error _ => []
    log := Message.shown limit w.messages
    files := w.files }

end Outcome

namespace Tool

/-- Run a tool on a host with the words of its command line. Files that are processed several at a
time are processed elsewhere, and their messages stay there. -/
def run (host : Host) (tool : Tool) (args : List Text) (files : FileSystem) : Outcome :=
  match Arguments.read tool args with
  | .error stop => .ofStop tool files stop
  | .ok (settings, pair) =>
    let start : Workspace := { files, messages := [] }
    match tool, pair with
    | .compare, some (first, second) =>
      let (result, w) := (Command.compare host settings first second).run start
      .ofResult settings.level result w
    | .compare, none => .ofStop tool files .misuse
    | .serialize, _ =>
      let (result, w) := (Command.serialize host settings).run start
      let limit := if settings.isParallel then .disable else settings.level
      .ofResult limit (result.map fun _ => { status := 0, output := [] }) w

end Tool

end JavaText
