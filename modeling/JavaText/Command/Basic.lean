import JavaText.Command.Host
import JavaText.Command.Serializer
import JavaText.Files.Basic

/-!
# What commands do

A command works on files and leaves messages; it may fail, and what it did before stays. Loading a
tree is common to all commands: a file that cannot be read or holds no tree is only warned about.
But where the loader breaks off, so does the command.
-/

namespace JavaText

/-- Why a command breaks off. -/
inductive CommandError
  /-- The limit on the depth of calls is not accepted. -/
  | depthLimit (e : DepthError)
  /-- An option that has to have a value was given none. -/
  | noValue (o : CliOption)
  /-- A file or directory cannot be made. -/
  | file (e : FileError)
  /-- Loading a tree breaks off. -/
  | loading (e : LoadError)
  /-- The name of the serializer chooses nothing. -/
  | reference (e : ReferenceError)
  /-- The serializer makes no text of a tree. -/
  | unsuited
  /-- There is no view of a tree as a lambda. -/
  | noLambda (e : LambdaError)
  /-- What the serializer makes of trees has no lines to compare. -/
  | noLines
  /-- The text cannot be encoded. -/
  | encode (e : EncodeError)
  deriving DecidableEq, Repr

/-- What a command changes. -/
structure Workspace where
  /-- The files. -/
  files : FileSystem
  /-- The messages so far, whatever their weight. -/
  messages : List Message
  deriving DecidableEq, Repr

/-- A step of a command. -/
abbrev Command := ExceptT CommandError (StateM Workspace)

namespace Command

/-- Leave a message. -/
def note (level : Level) (text : Text) : Command Unit :=
  modify fun w => { w with messages := w.messages ++ [{ level, text }] }

/-- The tree in the content of a file, if there is one. What stores memory is no document. -/
def treeIn (host : Host) (s : Settings) : Content → Except LoadError (Option Tree)
  | .bytes bs =>
    match s.format with
    | .document => (Codec.standard.decode (host.nesting s.depthLimit) bs).mapError .document
    | .snapshot => host.restore bs
  | .snapshot t =>
    match s.format with
    | .document => .ok none
    | .snapshot => .ok (some t)

/-- The warning about a file that cannot be read. -/
def unreadable (path : Text) (e : FileError) : Text :=
  Text.ofString "Cannot read file " ++ path ++ Text.ofString ": " ++ e.message path

/-- The warning about a file without a tree. -/
def noTree (path : Text) : Text :=
  Text.ofString "File " ++ path ++ Text.ofString " does not contain a valid tree."

/-- Load the tree of a file; there is none if the file cannot be read or holds no tree. A path that
no file can have ends the command. -/
def load? (host : Host) (s : Settings) (path : Text) : Command (Option Tree) := do
  match (← get).files.read path with
  | .error .nullByte => throw (.file .nullByte)
  | .error e =>
    note .warning (unreadable path e)
    return none
  | .ok c =>
    match treeIn host s c with
    | .error e => throw (.loading e)
    | .ok none =>
      note .warning (noTree path)
      return none
    | .ok (some t) => return some t

/-- Choose a serializer by its name. -/
def choose (name : Text) : Command Serializer :=
  match Serializer.ofName name with
  | .ok s => return s
  | .error e => throw (.reference e)

/-- Put a serializer to a tree. -/
def productOf (s : Serializer) (t : Tree) : Command Product :=
  match s.apply t with
  | .ok p => return p
  | .error .unsuited => throw .unsuited
  | .error (.noLambda e) => throw (.noLambda e)

/-- Check that an option has a value. -/
def demand (s : Settings) (o : CliOption) : Command Unit :=
  if s.blank.contains o then throw (.noValue o) else return ()

/-- Check the limit on the depth of calls, which the host must accept. -/
def checkDepthLimit (host : Host) : Option Int → Command Unit
  | none => return ()
  | some n =>
    match host.acceptDepth n with
    | .ok () => return ()
    | .error e => throw (.depthLimit e)

/-- Check the settings that all commands share. -/
def checkShared (host : Host) (s : Settings) : Command Unit := do
  demand s .treeFormat
  demand s .logLevel
  demand s .depthLimit
  checkDepthLimit host s.depthLimit

end Command

end JavaText
