import JavaText.Files.Basic
import JavaText.Regex

/-!
# Wildcards in path names

A pattern is a path name with wildcards: `*` for any part of a name, `?` for one character, a
bracketed set for one of several, and `**` for any number of directories. A name that starts with a
dot is found only by a pattern that starts with one. `Glob.files` lists the files that a pattern
finds, in the order of their path names.
-/

namespace JavaText

namespace Glob

/-! ## Wildcards in a name -/

/-- The wildcard for any part of a name. -/
def anyPart : CodePoint := '*'

/-- The wildcard for one character. -/
def anyChar : CodePoint := '?'

/-- The start of a set of characters. -/
def openSet : CodePoint := '['

/-- The end of a set of characters. -/
def closeSet : CodePoint := ']'

/-- What a set starts with if it lists the characters that are left out. -/
def negation : CodePoint := '!'

/-- What stands between the ends of a range of characters. -/
def rangeMark : CodePoint := '-'

/-- Whether a path name has wildcards. -/
def hasWildcard (p : Text) : Bool :=
  p.any fun c => c == anyPart || c == anyChar || c == openSet

/-- A set of characters in a pattern and what comes after it. -/
structure Bracket where
  /-- What stands between the brackets. -/
  body : Text
  /-- The pattern after the set. -/
  rest : Text

/-- A code point at the start of a text, if it is there, and the rest of the text. -/
def takeOne (c : CodePoint) : Text → Text × Text
  | [] => ([], [])
  | d :: t => if d = c then ([d], t) else ([], d :: t)

theorem length_takeOne (c : CodePoint) (t : Text) : (takeOne c t).2.length ≤ t.length := by
  cases t with
  | nil => simp [takeOne]
  | cons d t => by_cases h : d = c <;> simp [takeOne, h]

/-- The set that starts a pattern after its opening bracket. A closing bracket that comes first, or
directly after the mark of negation, is one of its characters. -/
def bracket? (t : Text) : Option Bracket :=
  let (mark, t) := takeOne negation t
  let (first, t) := takeOne closeSet t
  match t.dropWhile (· != closeSet) with
  | [] => none
  | _ :: rest => some { body := mark ++ first ++ t.takeWhile (· != closeSet), rest }

theorem length_rest_lt {t : Text} {b : Bracket} (h : bracket? t = some b) :
    b.rest.length < t.length := by
  unfold bracket? at h
  simp only at h
  split at h
  · simp at h
  · rename_i d rest hd
    have hb : b.rest = rest := by
      simp only [Option.some.injEq] at h
      rw [← h]
    have h1 := length_takeOne negation t
    have h2 := length_takeOne closeSet (takeOne negation t).2
    have h4 := (List.dropWhile_sublist (· != closeSet)
      (l := (takeOne closeSet (takeOne negation t).2).2)).length_le
    rw [hd] at h4
    simp only [List.length_cons] at h4
    rw [hb]
    omega

/-! ### Ranges in a set -/

/-- The pieces of a set between the marks of its ranges. The first `skip` characters hold no mark of
a range, since a range needs a character to start with. -/
def pieces (skip : Nat) (t : Text) : List Text :=
  match h : (t.drop skip).dropWhile (· != rangeMark) with
  | [] => [t]
  | _ :: rest =>
    have : rest.length < t.length := by
      have h1 := (List.dropWhile_sublist (· != rangeMark) (l := t.drop skip)).length_le
      rw [h] at h1
      simp only [List.length_cons, List.length_drop] at h1
      omega
    (t.take skip ++ (t.drop skip).takeWhile (· != rangeMark)) :: pieces 2 rest
termination_by t.length

/-- The pieces of a set, where a mark at the very end is a character like others. -/
def attachLast : List Text → List Text
  | [] => []
  | [t] => [t]
  | [t, []] => [t ++ [rangeMark]]
  | t :: u :: ts => t :: attachLast (u :: ts)

/-- The pieces of a set without the ranges that run backwards. Such a range takes both of its ends
with it, and what is left of the two pieces becomes one. -/
def dropBackward : List Text → List Text
  | [] => []
  | t :: ts =>
    match dropBackward ts with
    | [] => [t]
    | u :: us =>
      match t.getLast?, u with
      | some c, d :: rest =>
        if d.val < c.val then (t.dropLast ++ rest) :: us else t :: u :: us
      | _, _ => t :: u :: us

/-- The characters in the pieces of a set and in the ranges between neighbours. -/
def members : List Text → CharSet
  | [] => .compl .all
  | [t] => .ofText t
  | t :: u :: ts =>
    match t.getLast?, u.head? with
    | some c, some d => .union (.ofText t) (.union (.range c d) (members (u :: ts)))
    | _, _ => .union (.ofText t) (members (u :: ts))

/-- The pieces of a set after its backward ranges are gone. -/
def Bracket.pieces (b : Bracket) : List Text :=
  dropBackward (attachLast (Glob.pieces (if b.body.startsWith [negation] then 2 else 1) b.body))

/-- The characters that a set stands for. A set that starts with the mark of negation leaves its
characters out, also if the mark comes first only after a backward range is gone; a range that would
start with that mark is no range. -/
def Bracket.chars (b : Bracket) : CharSet :=
  match b.pieces with
  | [] => members []
  | t :: ts =>
    if t.startsWith [negation] then
      match t.drop 1, ts with
      | [], [] => .all
      | [], ts => .compl (.union (.single rangeMark) (members ts))
      | rest, ts => .compl (members (rest :: ts))
    else members (t :: ts)

/-- The shapes of the parts of a name that a pattern finds. -/
def parts (t : Text) : List Regex :=
  match t with
  | [] => []
  | c :: t =>
    if c = anyPart then .star (.chars .all) :: parts t
    else if c = anyChar then .chars .all :: parts t
    else if c = openSet then
      match h : bracket? t with
      | none => .chars (.single c) :: parts t
      | some b =>
        have := length_rest_lt h
        .chars b.chars :: parts b.rest
    else .chars (.single c) :: parts t
termination_by t.length

/-- The shape of the names that a pattern finds. -/
def shape (pattern : Text) : Regex :=
  .sequence (parts pattern)

/-! ## Wildcards in a path -/

/-- The pattern for any number of directories. -/
def anyDepth : Text := "**"

/-- Whether a name or the pattern of one starts with a dot. -/
def isHidden (n : Text) : Bool :=
  n.startsWith [Path.dot]

/-- The names in a directory, or only those of directories. No path is the working directory. A
directory that is not there has no names, but a path with the null character cannot be listed. -/
def namesIn (fs : FileSystem) (directory : Text) (onlyDirectories : Bool) :
    Except FileError (List Text) :=
  if directory.hasNull then .error .nullByte
  else .ok (((fs.list (if directory.isEmpty then [Path.dot] else directory)).filter fun (_, e) =>
    !onlyDirectories || e == .directory).map Prod.fst)

/-- The names in a directory that a pattern finds. -/
def matching (fs : FileSystem) (directory pattern : Text) (onlyDirectories : Bool) :
    Except FileError (List Text) := do
  return (← namesIn fs directory onlyDirectories).filter fun n =>
    (isHidden pattern || !isHidden n) && (shape pattern).accepts n

/-- A path below a directory; either may be empty. -/
def within (directory p : Text) : Text :=
  if directory.isEmpty then p else if p.isEmpty then directory else Path.join directory p

/-- The paths of all that is below a directory and not hidden. Directories are nested no deeper than
there are entries. -/
def below (fs : FileSystem) (onlyDirectories : Bool) :
    Nat → Text → Except FileError (List Text)
  | 0, _ => .ok []
  | fuel + 1, directory => do
    let names := (← namesIn fs directory onlyDirectories).filter fun n => !isHidden n
    let found ← names.mapM fun n => do
      return n :: (← below fs onlyDirectories fuel (within directory n)).map (within n)
    return found.flatten

/-- What the last name of a pattern finds in a directory. -/
def inDirectory (fs : FileSystem) (directory pattern : Text) (onlyDirectories : Bool) :
    Except FileError (List Text) := do
  if pattern = anyDepth then
    let here := if directory.isEmpty || fs.isDirectory directory then [[]] else []
    return here ++ (← below fs onlyDirectories (fs.entries.length + 1) directory)
  else if hasWildcard pattern then matching fs directory pattern onlyDirectories
  else if pattern.isEmpty then return if fs.isDirectory directory then [[]] else []
  else return if fs.isThere (within directory pattern) then [pattern] else []

/-- The paths that a pattern finds, or only those of directories. Each round takes off the last name
of the pattern. -/
def expand (fs : FileSystem) : Nat → Text → Bool → Except FileError (List Text)
  | 0, _, _ => .ok []
  | fuel + 1, pattern, onlyDirectories => do
    let directory := Path.directory pattern
    let name := Path.name pattern
    if !hasWildcard pattern then
      if name.isEmpty then return if fs.isDirectory directory then [pattern] else []
      else return if fs.isThere pattern then [pattern] else []
    else if directory.isEmpty then inDirectory fs [] name onlyDirectories
    else
      let directories ←
        if directory ≠ pattern ∧ hasWildcard directory then expand fs fuel directory true
        else pure [directory]
      let found ← directories.mapM fun d => do
        return (← inDirectory fs d name onlyDirectories).map (Path.join d)
      return found.flatten

/-- The files that a pattern finds, in the order of their paths. -/
def files (fs : FileSystem) (pattern : Text) : Except FileError (List Text) := do
  let found ← expand fs (pattern.length + 1) pattern false
  return (found.mergeSort Text.le).filter fs.isFile

end Glob

end JavaText
