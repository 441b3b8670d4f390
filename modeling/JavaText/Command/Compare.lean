import JavaText.Command.Basic
import JavaText.Diff.Report

/-!
# The command that compares two trees

Both files are loaded before anything else is decided, so each gets its warning. The exit status
tells whether the texts are identical, differ, or cannot be compared.
-/

namespace JavaText

namespace Command

/-- What a finished command shows: its exit status and what it prints. -/
structure Verdict where
  /-- The exit status. -/
  status : Nat
  /-- What is printed. -/
  output : Text
  deriving DecidableEq, Repr

/-- The report on what a serializer made of two trees. What is no text is only told apart, and there
is no diff of it. -/
def report (s : Settings) (first second : Text) : Product → Product → Command Report
  | .text a, .text b => return Report.compare first second a b s.showDiff
  | .constant, .constant => return { identical := true, text := Report.verdict first second true }
  | _, _ =>
    if s.showDiff then throw .noLines
    else return { identical := false, text := Report.verdict first second false }

/-- Compare what a serializer makes of the trees of two files. -/
def compare (host : Host) (s : Settings) (first second : Text) : Command Verdict := do
  checkShared host s
  demand s .serializer
  let serializer ← choose s.serializer
  let a? ← load? host s first
  let b? ← load? host s second
  match a?, b? with
  | some a, some b =>
    let result ← report s first second (← productOf serializer a) (← productOf serializer b)
    return { status := if result.identical then 0 else 1
             output := result.text ++ Text.ofString "\n" }
  | _, _ => return { status := 2, output := [] }

end Command

end JavaText
