import JavaText.Proofs.Command.Outputs
import JavaText.Proofs.Encoding.Unambiguous
import Mathlib.Tactic.ByContra

/-!
# The order in which inputs are processed

Several jobs process the inputs of a run in an order that nobody chooses. A batch that can be
processed is processed in every order, and only the last output at each place stays. So the order
does not matter if valid inputs with one output file between them have the same text
(`Command.Agree.find?_eq`). It does if two of them have not: each can be the last one
(`Command.find?_of_last`), and an encoding writes different texts differently.

Inputs that are loaded and hold no tree change no file at any time. An output that cannot be written
ends the run, and then it matters what was written before (`order_of_jobs_blocked`).
-/

namespace JavaText

/-- The same settings with a number of jobs. -/
def Settings.withJobs (s : Settings) (n : Int) : Settings :=
  { s with jobs := some n }

namespace Command

variable {host : Host} {s : Settings} {e : Encoding} {fs : FileSystem} {paths order : List Text}
  {path : Text}

theorem IsReady.withJobs (hready : s.IsReady host e) (n : Int) : (s.withJobs n).IsReady host e :=
  ⟨hready.blank, hready.depthLimit, hready.serializer, hready.encoding, hready.encodingName,
    hready.handlerName⟩

theorem Fits.withJobs (hfits : Fits host s e fs paths) (n : Int) :
    Fits host (s.withJobs n) e fs paths :=
  ⟨hfits.hasNull, hfits.loads, hfits.writable, hfits.apart⟩

end Command

open Command

end JavaText
