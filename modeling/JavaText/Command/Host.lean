import JavaText.Text.Name
import JavaText.Text.Quoted
import JavaText.Tree.Codec

/-!
# What a command is run on

Some things are not for a command to say: which limits on the depth of calls it can be given, how
deep a document can then be, what bytes mean that are no document, and what characters are called. A
`Host` answers them, and what is said of commands holds on every host. `Host.standard` is enough to
run a command: its limits leave room for the calls of the command itself, and of the bytes that are
no document it knows only how they can be damaged at their start.
-/

namespace JavaText

/-- Why a limit on the depth of calls is not accepted. -/
inductive DepthError
  /-- The limit is not positive. -/
  | tooLow
  /-- The limit does not fit a machine word. -/
  | tooHigh
  /-- The limit is positive and already reached. -/
  | reached
  deriving DecidableEq, Repr

/-- The message about a limit that is not positive. -/
def DepthError.tooLowMessage : Text := "recursion limit must be greater or equal than 1"

/-- Why loading a tree breaks off, where there is more to say than that there is none. -/
inductive LoadError
  /-- The document cannot be read. -/
  | document (e : ReadError)
  /-- The stored memory cannot be restored, for a reason of the named class. -/
  | snapshot (className message : Text)
  deriving DecidableEq, Repr

/-- What a command is run on. -/
structure Host where
  /-- Whether a limit on the depth of calls is accepted. -/
  acceptDepth : Int → Except DepthError Unit
  /-- How many arrays and objects can be open inside one another in a document that is read under a
  limit on the depth of calls, or under the usual one. -/
  nesting : Option Int → Option Nat
  /-- The tree in bytes that store memory; there is none if the bytes are damaged or store something
  else. -/
  restore : Bytes → Except LoadError (Option Tree)
  /-- The name of a character. -/
  characterName : CodePoint → Option Text

namespace Host

/-- How many calls a command is deep at least. -/
def leastDepth : Int := 12

/-- How many calls a command is deep where it reads a document. -/
def readingDepth : Int := 20

/-- The usual limit on the depth of calls. -/
def usualDepth : Int := 1000

/-- The byte at the start of stored memory after which a line with a number must follow. -/
def numberMark : UInt8 := 0x67

/-- Whether a byte is a printable character of ASCII other than a digit. -/
def isWordByte (b : UInt8) : Bool :=
  decide (0x20 ≤ b ∧ b < 0x30) || decide (0x3a ≤ b ∧ b < 0x7f)

/-- The message about a line that is no number, shortened if it is long. -/
def noNumberMessage (line : Bytes) : Text :=
  let text : Text := line.map (fun b => CodePoint.ofNat b.toNat) ++ Text.ofString "\n"
  Text.ofString "invalid literal for int() with base 10: " ++ text.quoted.take 200

/-- What can be told from the start of stored memory: that there are words on the line where a
number must be. No tree is found in bytes. -/
def restoreStart : Bytes → Except LoadError (Option Tree)
  | [] => .ok none
  | mark :: rest =>
    let line := rest.takeWhile (· != 0x0a)
    if mark == numberMark && !line.isEmpty && line.all isWordByte
        && decide (line.length < rest.length) then
      .error (.snapshot "ValueError" (noNumberMessage line))
    else .ok none

/-- A host with machine words of 32 bits for limits, and with a short table of names. -/
def standard : Host where
  acceptDepth n :=
    if n < -2147483648 ∨ 2147483647 < n then .error .tooHigh
    else if n < 1 then .error .tooLow
    else if n < leastDepth then .error .reached
    else .ok ()
  nesting limit := some ((limit.getD usualDepth - readingDepth).toNat)
  restore := restoreStart
  characterName := CodePoint.shortName?

end Host

end JavaText
