import JavaText.Text.Size

/-!
# Path names

A path name is a text with slashes between names. It is taken apart at its last slash, joined to a
directory, and read as a list of steps that lead from directory to directory.
-/

namespace JavaText

namespace Path

/-- What stands between the names of a path. -/
def slash : CodePoint := '/'

/-- What stands before the extension of a name. -/
def dot : CodePoint := '.'

/-! ## Parts of a path name -/

/-- The last name of a path: what follows its last slash. -/
def name (p : Text) : Text :=
  (p.reverse.takeWhile (· != slash)).reverse

/-- A path name without slashes at its end, unless it has nothing but slashes. -/
def trimSlashes (p : Text) : Text :=
  match p.reverse.dropWhile (· == slash) with
  | [] => p
  | rest => rest.reverse

/-- The directory of a path: what comes before its last name. -/
def directory (p : Text) : Text :=
  trimSlashes (p.reverse.dropWhile (· != slash)).reverse

/-- A path from a directory; one that starts with a slash stays as it is. -/
def join (directory p : Text) : Text :=
  if p.startsWith [slash] then p
  else if directory.isEmpty || directory.endsWith [slash] then directory ++ p
  else directory ++ slash :: p

/-- A name without its extension. Dots at the start of a name do not begin an extension. -/
def stem (n : Text) : Text :=
  match n.reverse.dropWhile (· != dot) with
  | [] => n
  | _ :: before => if before.all (· == dot) then n else before.reverse

/-! ## Steps -/

/-- One step on the way to a file. -/
inductive Step
  | stay
  | up
  | down (name : Text)
  deriving DecidableEq, Repr

/-- The step that a name stands for; where two slashes meet there is none. -/
def Step.ofName? (n : Text) : Option Step :=
  if n.isEmpty then none
  else if n = [dot] then some stay
  else if n = [dot, dot] then some up
  else some (down n)

/-- How many bytes a name in a path may have. -/
def maxNameSize : Nat := 255

/-- How many bytes a path may have. -/
def maxSize : Nat := 4095

/-- Whether a step leads to a name that is too long. -/
def Step.isTooLong : Step → Bool
  | down n => decide (maxNameSize < n.utf8Size)
  | _ => false

/-- Whether a path is too long, whatever its names are. -/
def isTooLong (p : Text) : Bool :=
  decide (maxSize < p.utf8Size)

/-- The steps of a path in order. -/
def steps (p : Text) : List Step :=
  (p.splitAt slash).filterMap Step.ofName?

/-- Whether a path starts at the root of all files. -/
def isAbsolute (p : Text) : Bool :=
  p.startsWith [slash]

/-- Whether a path ends in a slash, so that only a directory can be meant. -/
def endsInSlash (p : Text) : Bool :=
  p.endsWith [slash]

end Path

end JavaText
