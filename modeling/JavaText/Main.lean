import JavaText.Command.Run

/-!
# The command line

The first word names the tool and the others are for the tool. The files below the working directory
are read before the run, and what the run changed is written after it.
-/

namespace JavaText

namespace CommandLine

/-- Read the files and directories of a directory that stands at the given place. -/
partial def load (place : Place) (entries : Array IO.FS.DirEntry) (fs : FileSystem) :
    IO FileSystem := do
  let mut fs := fs
  for entry in entries do
    let here := place ++ [Text.ofString entry.fileName]
    if ← entry.path.isDir then
      fs ← load here (← entry.path.readDir) (fs.put here .directory)
    else
      let bytes ← IO.FS.readBinFile entry.path
      fs := fs.put here (.file (.bytes bytes.data.toList))
  return fs

/-- Write what a run changed. Directories come before the files in them, in the order in which the
run made them. -/
def save (before after : FileSystem) : IO Unit := do
  let directory ← IO.currentDir
  for (place, entry) in after.entries do
    if before.find? place ≠ some entry then
      let path := directory / Text.toString (Text.join [Path.slash] place)
      match entry with
      | .directory => IO.FS.createDirAll path
      | .file (.bytes bs) => IO.FS.writeBinFile path ⟨bs.toArray⟩
      | .file (.snapshot _) => pure ()

/-- Why a run broke off, in words. -/
def explain : CommandError → Text
  | .depthLimit .tooLow => DepthError.tooLowMessage
  | .depthLimit .tooHigh => "the recursion limit is too large"
  | .depthLimit .reached => "the recursion limit is too low"
  | .noValue o => Text.ofString ("no value is given for " ++ o.names.getLast?.getD "")
  | .file .notFound => "the output path does not exist"
  | .file .notDirectory => "the output path leads through a file"
  | .file .isDirectory => "the output file is a directory"
  | .file .alreadyThere => "the output directory is a file"
  | .file .nameTooLong => "the output path is too long"
  | .file .nullByte => FileError.nullByteMessage
  | .loading (.document (.unknown name)) => name.message
  | .loading (.document .tooDeep) => "a document goes too deep"
  | .loading (.snapshot className message) => className ++ Text.ofString ": " ++ message
  | .reference .noModule => ReferenceError.noModuleMessage
  | .reference .relative => "the serializer is named relative to nothing"
  | .reference .unknownModule => "the serializer is in no known module"
  | .reference .unknownMember => "the module has no such serializer"
  | .unsuited => "the serializer makes no text of a tree"
  | .noLambda (.wrongKind kind) => LambdaError.wrongKindMessage kind
  | .noLambda _ => "the tree is no lambda"
  | .noLines => "what the serializer makes has no lines"
  | .encode .unencodable => "the text does not fit the encoding"
  | .encode (.unknown name) => name.message
  | .encode .nullInName => EncodeError.nullMessage

/-- Run a tool on the working directory. -/
def run (tool : Tool) (args : List String) : IO UInt32 := do
  let before ← load [] (← (← IO.currentDir).readDir) .empty
  let outcome := Tool.run .standard tool (args.map Text.ofString) before
  save before outcome.files
  for message in outcome.log do
    IO.eprintln (Text.toString message.text)
  IO.print (Text.toString outcome.output)
  match outcome.status with
  | .ok status => return UInt32.ofNat status
  | .error e =>
    IO.eprintln (Text.toString (explain e))
    return 1

end CommandLine

end JavaText

/-- Run the tool that the first word names. -/
def main (args : List String) : IO UInt32 := do
  match args with
  | name :: rest =>
    match JavaText.Tool.ofName? name with
    | some tool => JavaText.CommandLine.run tool rest
    | none => IO.eprintln "unknown tool"; return 2
  | [] => IO.eprintln "no tool is named"; return 2
