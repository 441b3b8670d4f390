import JavaText.Encoding.Basic
import JavaText.Files.Path
import JavaText.Text.Quoted
import JavaText.Text.Size
import JavaText.Tree.Basic

/-!
# Files and directories

The files that a command reads and writes, as a value. A place is the list of names that leads to a
file from the working directory. What a path means depends on the directories that are there: each
step but the last must lead to one. Names and paths must not be too long, and no path may hold the
null character. `FileSystem.find?` is the view that says what is at a place.
-/

namespace JavaText

/-- What a file holds: bytes, or a tree as it was in memory. -/
inductive Content
  | bytes (bs : Bytes)
  | snapshot (t : Tree)
  deriving DecidableEq, Repr

/-- What is at a place. -/
inductive Entry
  | directory
  | file (content : Content)
  deriving DecidableEq, Repr

/-- Why a file or directory cannot be reached or made. -/
inductive FileError
  | notFound
  | notDirectory
  | isDirectory
  | alreadyThere
  | nameTooLong
  /-- The path holds the null character. -/
  | nullByte
  deriving DecidableEq, Repr

namespace FileError

/-- The message about a path that holds the null character. -/
def nullByteMessage : Text := "embedded null byte"

/-- The message about a path that cannot be reached. -/
def message (e : FileError) (path : Text) : Text :=
  match e with
  | nullByte => nullByteMessage
  | _ => Text.ofString cause ++ Text.ofString ": " ++ path.quoted
where
  /-- The number and the wording of the cause. -/
  cause : String := match e with
    | notFound => "[Errno 2] No such file or directory"
    | notDirectory => "[Errno 20] Not a directory"
    | isDirectory => "[Errno 21] Is a directory"
    | alreadyThere => "[Errno 17] File exists"
    | nameTooLong => "[Errno 36] File name too long"
    | nullByte => ""

end FileError

/-- A place: the names that lead to it from the working directory. Places outside of it start with
steps up, or with a slash for the root of all files. -/
abbrev Place := List Text

namespace Place

/-- The name of a step up. -/
def up : Text := ".."

/-- The name of the root of all files. -/
def root : Text := "/"

/-- The directories that are always there: the working directory and those above it. -/
def isOuter (p : Place) : Bool :=
  p.all (· == up) || p == [root]

/-- The place that a step leads to. -/
def follow (p : Place) : Path.Step → Place
  | .stay => p
  | .down name => p ++ [name]
  | .up => if p == [root] then p else if isOuter p then p ++ [up] else p.dropLast

/-- The place where a path starts. -/
def start (path : Text) : Place :=
  if Path.isAbsolute path then [root] else []

end Place

/-- The files and directories by their places. -/
structure FileSystem where
  /-- What is at each place. -/
  entries : List (Place × Entry)
  deriving DecidableEq, Repr

namespace FileSystem

/-- No file and no directory but those that are always there. -/
def empty : FileSystem :=
  { entries := [] }

/-- What is at a place. -/
def find? (fs : FileSystem) (p : Place) : Option Entry :=
  if p.isOuter then some .directory else fs.entries.lookup p

/-- Put an entry at a place. -/
def put (fs : FileSystem) (p : Place) (e : Entry) : FileSystem :=
  { entries := insertInto fs.entries }
where
  /-- Replace the entry of the place, or add it at the end. -/
  insertInto : List (Place × Entry) → List (Place × Entry)
    | [] => [(p, e)]
    | (q, d) :: rest => if q = p then (p, e) :: rest else (q, d) :: insertInto rest

/-! ## Finding the way -/

/-- Check that a place is a directory. -/
def enter (fs : FileSystem) (p : Place) : Except FileError Place :=
  match fs.find? p with
  | none => .error .notFound
  | some (.file _) => .error .notDirectory
  | some .directory => .ok p

/-- Follow steps from a place; each is taken from a directory. -/
def walk (fs : FileSystem) (p : Place) : List Path.Step → Except FileError Place
  | [] => .ok p
  | s :: rest =>
    match fs.enter p with
    | .error e => .error e
    | .ok p => if s.isTooLong then .error .nameTooLong else walk fs (p.follow s) rest

/-- Check a path before any step is taken. -/
def check (path : Text) : Except FileError Unit :=
  if path.hasNull then .error .nullByte
  else if path.isEmpty then .error .notFound
  else if Path.isTooLong path then .error .nameTooLong
  else .ok ()

/-- What is at the end of a path, and where that is. -/
def lookup (fs : FileSystem) (path : Text) : Except FileError (Place × Entry) := do
  check path
  let p ← fs.walk (.start path) (Path.steps path)
  match fs.find? p with
  | none => .error .notFound
  | some .directory => .ok (p, .directory)
  | some (.file c) => if Path.endsInSlash path then .error .notDirectory else .ok (p, .file c)

/-- Whether there is anything at the end of a path. -/
def isThere (fs : FileSystem) (path : Text) : Bool :=
  (fs.lookup path).isOk

/-- Whether there is a directory at the end of a path. -/
def isDirectory (fs : FileSystem) (path : Text) : Bool :=
  match fs.lookup path with
  | .ok (_, .directory) => true
  | _ => false

/-- Whether there is a file at the end of a path. -/
def isFile (fs : FileSystem) (path : Text) : Bool :=
  match fs.lookup path with
  | .ok (_, .file _) => true
  | _ => false

/-- The names in the directory at the end of a path, with what they stand for. -/
def list (fs : FileSystem) (path : Text) : List (Text × Entry) :=
  match fs.lookup path with
  | .ok (p, .directory) => fs.entries.filterMap fun (q, e) =>
    match q.getLast? with
    | some n => if q.dropLast = p then some (n, e) else none
    | none => none
  | _ => []

/-! ## Reading and writing -/

/-- What the file at the end of a path holds. -/
def read (fs : FileSystem) (path : Text) : Except FileError Content :=
  match fs.lookup path with
  | .error e => .error e
  | .ok (_, .directory) => .error .isDirectory
  | .ok (_, .file c) => .ok c

/-- The directory in which the last step of a path is taken, and that step. -/
def parent (fs : FileSystem) (path : Text) : Except FileError (Place × Option Path.Step) := do
  check path
  let steps := Path.steps path
  let p ← fs.walk (.start path) steps.dropLast
  return (← fs.enter p, steps.getLast?)

/-- The place at which a path would make a new file, if it may. -/
def target (fs : FileSystem) (path : Text) : Except FileError Place :=
  match fs.parent path with
  | .error e => .error e
  | .ok (p, some (.down name)) =>
    if Path.endsInSlash path then .error .isDirectory
    else if (Path.Step.down name).isTooLong then .error .nameTooLong
    else match fs.find? (p ++ [name]) with
      | some .directory => .error .isDirectory
      | _ => .ok (p ++ [name])
  | .ok _ => .error .isDirectory

/-- Write a file. -/
def write (fs : FileSystem) (path : Text) (c : Content) : Except FileError FileSystem :=
  (fs.target path).map fun p => fs.put p (.file c)

/-- Make a directory whose parent is there. -/
def makeDirectory (fs : FileSystem) (path : Text) : Except FileError FileSystem :=
  match fs.parent path with
  | .error e => .error e
  | .ok (p, some (.down name)) =>
    if (Path.Step.down name).isTooLong then .error .nameTooLong
    else match fs.find? (p ++ [name]) with
      | none => .ok (fs.put (p ++ [name]) .directory)
      | some _ => .error .alreadyThere
  | .ok _ => .error .alreadyThere

/-- The directory above the one that a path names, and the last name; a slash at the end does not
count. -/
def splitDirectory (path : Text) : Text × Text :=
  if (Path.name path).isEmpty then
    (Path.directory (Path.directory path), Path.name (Path.directory path))
  else (Path.directory path, Path.name path)

/-- Make a directory and, before it, those above it that are missing. It does not matter if the
directory is there. What was made before a failure stays. -/
def makeDirectories : Nat → FileSystem → Text → FileSystem × Except FileError Unit
  | 0, fs, _ => (fs, .error .notFound)
  | fuel + 1, fs, path =>
    let (above, name) := splitDirectory path
    let needsAbove := !above.isEmpty && !name.isEmpty && !fs.isThere above
    let (fs, made) := if needsAbove then makeDirectories fuel fs above else (fs, .ok ())
    match made with
    | .ok () | .error .alreadyThere =>
      if needsAbove && name == [Path.dot] then (fs, .ok ())
      else match fs.makeDirectory path with
        | .ok fs => (fs, .ok ())
        | .error e => (fs, if fs.isDirectory path then .ok () else .error e)
    | .error e => (fs, .error e)

/-- Make a directory and those above it that are missing. A path has fewer directories above it
than characters. -/
def ensureDirectory (fs : FileSystem) (path : Text) : FileSystem × Except FileError Unit :=
  makeDirectories (path.length + 1) fs path

end FileSystem

end JavaText
