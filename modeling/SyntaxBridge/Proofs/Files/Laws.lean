import SyntaxBridge.Files.System

/-!
# Laws of file systems

What a program may rely on wherever its files are. A file system is seen through a view
(`FileView`): the places that paths lead to, and the files that stand there. Several paths may lead
to one place, a file may be there that cannot be read or not be written, and a path may lead to
something that is no file at all, such as a device.

`FileSystem.Laws` says how access to files and the view go together. Writing may always fail, and
then nothing is said about what is left of the file, but other files are never touched (`Frame`).
-/

namespace SyntaxBridge

/-- The files of a file system as they are at some time. -/
structure FileView (ι : Type) where
  /-- The place for a file that a path leads to, whether or not there is one yet. -/
  place? : String → Option ι
  /-- A path leads to something that can be written and is no file. -/
  IsSpecial : String → Prop
  /-- What the file at a place holds, if there is one. -/
  content? : ι → Option (List UInt8)
  /-- The file at a place may be read, or one that is created there. -/
  IsReadable : ι → Prop

namespace FileView

variable {ι : Type} {before middle after : FileView ι} {places others : ι → Prop}

/-- A later view where only files at some places may have changed. All paths lead where they led. -/
structure Frame (places : ι → Prop) (before after : FileView ι) : Prop where
  place?_eq : ∀ path, after.place? path = before.place? path
  isSpecial_iff : ∀ path, after.IsSpecial path ↔ before.IsSpecial path
  content?_eq : ∀ place, ¬ places place → after.content? place = before.content? place
  isReadable_iff : ∀ place, ¬ places place → (after.IsReadable place ↔ before.IsReadable place)

namespace Frame

theorem refl (places : ι → Prop) (view : FileView ι) : Frame places view view :=
  ⟨fun _ => rfl, fun _ => Iff.rfl, fun _ _ => rfl, fun _ _ => Iff.rfl⟩

theorem trans (h : Frame places before middle) (h' : Frame places middle after) :
    Frame places before after where
  place?_eq path := (h'.place?_eq path).trans (h.place?_eq path)
  isSpecial_iff path := (h'.isSpecial_iff path).trans (h.isSpecial_iff path)
  content?_eq place hplace := (h'.content?_eq place hplace).trans (h.content?_eq place hplace)
  isReadable_iff place hplace :=
    (h'.isReadable_iff place hplace).trans (h.isReadable_iff place hplace)

theorem mono (h : Frame places before after) (hsub : ∀ place, places place → others place) :
    Frame others before after where
  place?_eq := h.place?_eq
  isSpecial_iff := h.isSpecial_iff
  content?_eq place hplace := h.content?_eq place (mt (hsub place) hplace)
  isReadable_iff place hplace := h.isReadable_iff place (mt (hsub place) hplace)

end Frame

/-- A place is one of those that paths lead to. -/
def IsPlaceOf (view : FileView ι) (paths : List String) (place : ι) : Prop :=
  ∃ path ∈ paths, view.place? path = some place

/-- Paths that lead to files, or to places for files that may be read once they are there. No two of
the places are the same. -/
structure Apart (view : FileView ι) (paths : List String) : Prop where
  not_isSpecial : ∀ path ∈ paths, ¬ view.IsSpecial path
  isReadable_new : ∀ path ∈ paths, ∀ place, view.place? path = some place →
    view.content? place = none → view.IsReadable place
  pairwise : paths.Pairwise fun path other => ∀ place, view.place? path = some place →
    view.place? other ≠ some place

/-- Such paths where no file that is there already keeps its readers out. -/
structure Ordinary (view : FileView ι) (paths : List String) : Prop extends Apart view paths where
  isReadable : ∀ path ∈ paths, ∀ place, view.place? path = some place →
    view.content? place ≠ none → view.IsReadable place

variable {path : String} {paths : List String}

theorem Apart.tail (h : Apart before (path :: paths)) : Apart before paths where
  not_isSpecial other hother := h.not_isSpecial other (List.mem_cons_of_mem _ hother)
  isReadable_new other hother := h.isReadable_new other (List.mem_cons_of_mem _ hother)
  pairwise := h.pairwise.of_cons

theorem Ordinary.tail (h : Ordinary before (path :: paths)) : Ordinary before paths where
  toApart := h.toApart.tail
  isReadable other hother := h.isReadable other (List.mem_cons_of_mem _ hother)

/-- Paths that are apart stay so when other files change, since all paths lead where they led. -/
theorem Apart.of_frame (h : Apart before paths) (hframe : Frame places before after)
    (hplaces : ∀ path ∈ paths, ∀ place, before.place? path = some place → ¬ places place) :
    Apart after paths where
  not_isSpecial path hpath hspecial :=
    h.not_isSpecial path hpath ((hframe.isSpecial_iff path).mp hspecial)
  isReadable_new path hpath place hplace hcontent := by
    rw [hframe.place?_eq] at hplace
    have hplaces := hplaces path hpath place hplace
    rw [hframe.content?_eq place hplaces] at hcontent
    exact (hframe.isReadable_iff place hplaces).mpr
      (h.isReadable_new path hpath place hplace hcontent)
  pairwise := h.pairwise.imp fun {path other} hapart place hplace hother =>
    hapart place (hframe.place?_eq path ▸ hplace) (hframe.place?_eq other ▸ hother)

/-- So do ordinary paths. -/
theorem Ordinary.of_frame (h : Ordinary before paths) (hframe : Frame places before after)
    (hplaces : ∀ path ∈ paths, ∀ place, before.place? path = some place → ¬ places place) :
    Ordinary after paths where
  toApart := h.toApart.of_frame hframe hplaces
  isReadable path hpath place hplace hcontent := by
    rw [hframe.place?_eq] at hplace
    have hplaces := hplaces path hpath place hplace
    rw [hframe.content?_eq place hplaces] at hcontent
    exact (hframe.isReadable_iff place hplaces).mpr (h.isReadable path hpath place hplace hcontent)

end FileView

namespace FileSystem

variable {σ ι : Type}

/-- The laws of a file system whose states are seen through a view. -/
structure Laws (files : FileSystem (StateM σ)) (view : σ → FileView ι) : Prop where
  /-- Asking what a path leads to changes nothing. -/
  isFile_state : ∀ s path, ((files.isFile path).run s).2 = s
  isDirectory_state : ∀ s path, ((files.isDirectory path).run s).2 = s
  /-- Reading changes no file. -/
  view_read : ∀ s path, view ((files.read path).run s).2 = view s
  /-- A place for a file is in use if there is a file. -/
  isFile_iff : ∀ s path place, (view s).place? path = some place →
    (((files.isFile path).run s).1 = true ↔ (view s).content? place ≠ none)
  /-- What counts as a file is one, or is special. -/
  isFile_target : ∀ s path, ((files.isFile path).run s).1 = true →
    ((view s).place? path).isSome ∨ (view s).IsSpecial path
  /-- A file is read as what it holds, if it may be read. -/
  read_iff : ∀ s path place bytes, (view s).place? path = some place →
    (((files.read path).run s).1 = .ok bytes ↔
      (view s).content? place = some bytes ∧ (view s).IsReadable place)
  /-- What can be read is a file, or is special. -/
  read_target : ∀ s path bytes, ((files.read path).run s).1 = .ok bytes →
    ((view s).place? path).isSome ∨ (view s).IsSpecial path
  /-- Writing changes no other file, even if it fails. -/
  frame_write : ∀ s path bytes, FileView.Frame (fun place => (view s).place? path = some place)
    (view s) (view ((files.write path bytes).run s).2)
  /-- A file that was written holds what was written. -/
  content?_write : ∀ s path bytes place, (view s).place? path = some place →
    ((files.write path bytes).run s).1 = .ok () →
    (view ((files.write path bytes).run s).2).content? place = some bytes
  /-- A file that was written may be read as before. -/
  isReadable_write : ∀ s path bytes place, (view s).place? path = some place →
    ((files.write path bytes).run s).1 = .ok () → (view s).IsReadable place →
    (view ((files.write path bytes).run s).2).IsReadable place
  /-- What can be written is a file, or is special. -/
  write_target : ∀ s path bytes, ((files.write path bytes).run s).1 = .ok () →
    ((view s).place? path).isSome ∨ (view s).IsSpecial path
  /-- A text without null characters is a path. -/
  read_ne_null : ∀ s path, '\x00' ∉ path.toList →
    ((files.read path).run s).1 ≠ .error .nullCharacter
  write_ne_null : ∀ s path bytes, '\x00' ∉ path.toList →
    ((files.write path bytes).run s).1 ≠ .error .nullCharacter
  null_notMem : ∀ s path, ((files.isDirectory path).run s).1 = true → '\x00' ∉ path.toList
  /-- Texts that can be encoded are encoded as UTF-8. -/
  encode_eq : ∀ text bytes, files.encode text = .ok bytes → bytes = Text.encode text.toList

end FileSystem

end SyntaxBridge
