import JavaText.Command.Basic
import JavaText.Files.Glob

/-!
# The command that writes canonical texts

Every input file is processed on its own: its tree is loaded and its text written to a file of the
same name in the output directory, with another extension. The output file is made before the text
is, so that a failure leaves it empty. The files of a pattern are looked for when those before it
are done.
-/

namespace JavaText

namespace Command

/-- The path of the output file of an input file. -/
def outputPath (s : Settings) (path : Text) : Text :=
  Path.join s.out (Path.stem (Path.name path) ++ s.extension)

/-- Write a file. -/
def writeFile (path : Text) (bs : Bytes) : Command Unit := do
  let w ← get
  match w.files.write path (.bytes bs) with
  | .error e => throw (.file e)
  | .ok files => set { w with files }

/-- The bytes of a text in the encoding of the settings. -/
def bytesOf (host : Host) (s : Settings) (e : Encoding) (text : Text) : Command Bytes := do
  demand s .encodingErrors
  if s.handler.hasNull then throw (.encode .nullInName)
  match e.encode ((Handler.ofName s.handler).withNames host.characterName) text with
  | .ok bs => return bs
  | .error err => throw (.encode err)

/-- The encoding of the settings. -/
def encodingOf (s : Settings) : Command Encoding := do
  demand s .encoding
  if s.encoding.hasNull then throw (.encode .nullInName)
  match Encoding.ofName? s.encoding with
  | some e => return e
  | none => throw (.encode (.unknown (.encoding s.encoding)))

/-- The text that a serializer makes of a tree. -/
def textOf (s : Serializer) (t : Tree) : Command Text := do
  match ← productOf s t with
  | .text text => return text
  | _ => throw .unsuited

/-- Process one input file. A module as serializer cannot be handed over to where files are
processed several at a time. -/
def process (host : Host) (s : Settings) (serializer : Serializer) (path : Text) :
    Command Unit := do
  if s.isParallel && serializer == .wholeModule then throw .unsuited
  note .info (Text.ofString "Process file " ++ path ++ Text.ofString ".")
  match ← load? host s path with
  | none => return ()
  | some t =>
    writeFile (outputPath s path) []
    let encoding ← encodingOf s
    let text ← textOf serializer t
    writeFile (outputPath s path) (← bytesOf host s encoding text)

/-- Process input files one after another. -/
def processAll (host : Host) (s : Settings) (serializer : Serializer) : List Text → Command Unit
  | [] => return ()
  | path :: rest => do
    process host s serializer path
    processAll host s serializer rest

/-- The files that a pattern finds. -/
def filesOf (pattern : Text) : Command (List Text) := do
  match Glob.files (← get).files pattern with
  | .ok paths => return paths
  | .error e => throw (.file e)

/-- Process the files of one pattern after another. -/
def processPatterns (host : Host) (s : Settings) (serializer : Serializer) :
    List Text → Command Unit
  | [] => return ()
  | pattern :: rest => do
    processAll host s serializer (← filesOf pattern)
    processPatterns host s serializer rest

/-- Make the output directory. -/
def makeOutput (path : Text) : Command Unit := do
  let w ← get
  let (files, result) := w.files.ensureDirectory path
  set { w with files }
  match result with
  | .ok () => return ()
  | .error e => throw (.file e)

/-- Write the texts of all input files. -/
def serialize (host : Host) (s : Settings) : Command Unit := do
  checkShared host s
  demand s .out
  makeOutput s.out
  demand s .serializer
  let serializer ← choose s.serializer
  demand s .jobs
  processAll host s serializer s.inputs
  processPatterns host s serializer s.patterns

end Command

end JavaText
