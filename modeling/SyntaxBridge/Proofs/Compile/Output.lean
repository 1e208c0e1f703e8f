import Mathlib.Tactic.ByContra
import Mathlib.Tactic.SplitIfs
import SyntaxBridge.Compile.Output
import SyntaxBridge.Proofs.Compile.Run
import SyntaxBridge.Proofs.Files.Laws
import SyntaxBridge.Proofs.Text.Lines
import SyntaxBridge.Proofs.Text.Utf8

/-!
# Attempts to write files

Each file that a run is to write is attempted: it is found unchanged, or written, or refused, or the
file that is there cannot even be read to see whether it is unchanged. `Attempt` says what the files
and the log are afterwards, and `Attempts` does so for files one after the other.

What this means for the files follows from the laws of file systems: nothing else changes
(`Attempts.frame`), files that do not fail hold their texts at the end (`Attempts.holdsText`), and
those that fail are the errors (`Attempts.errors_eq`).
-/

namespace SyntaxBridge

open Swift (SourceFile)

/-! ## Texts in files -/

/-- The text of a file, with a line feed for every line end. -/
def Swift.SourceFile.unifiedText (file : SourceFile) : String :=
  String.ofList (Text.unifyLineEnds file.text.toList)

/-- A text that is written is read with a line feed for every line end. -/
theorem decodeFile_encode (cs : List Char) :
    decodeFile (Text.encode cs) = .ok (String.ofList (Text.unifyLineEnds cs)) := by
  rw [decodeFile, Text.decode_encode]
  rfl

/-- A text that is read has a line feed for every line end. -/
theorem unifyLineEnds_of_decodeFile {bytes : List UInt8} {text : String}
    (h : decodeFile bytes = .ok text) :
    String.ofList (Text.unifyLineEnds text.toList) = text := by
  unfold decodeFile at h
  cases hcs : Text.decode bytes with
  | error fault =>
    rw [hcs] at h
    cases h
  | ok cs =>
    rw [hcs] at h
    cases h
    rw [String.toList_ofList, Text.unifyLineEnds_unifyLineEnds]

/-- A text is read under a path, with a line feed for every line end. -/
def FileSystem.Reads {σ : Type} (files : FileSystem (StateM σ)) (s : σ) (path text : String) :
    Prop :=
  ∃ bytes, ((files.read path).run s).1 = .ok bytes ∧ decodeFile bytes = .ok text

/-- There is a file under a path that may be read and holds a text, with a line feed for every line
end. -/
def FileView.HoldsText {ι : Type} (view : FileView ι) (path text : String) : Prop :=
  ∃ place bytes, view.place? path = some place ∧ view.content? place = some bytes ∧
    view.IsReadable place ∧ decodeFile bytes = .ok text

/-- What a file holds stays when files are written at other places. -/
theorem FileView.HoldsText.of_frame {ι : Type} {before after : FileView ι} {path text : String}
    {places : ι → Prop} (h : before.HoldsText path text) (hframe : Frame places before after)
    (hplaces : ∀ place, before.place? path = some place → ¬ places place) :
    after.HoldsText path text := by
  obtain ⟨place, bytes, hplace, hcontent, hreadable, hdecode⟩ := h
  have hother := hplaces place hplace
  exact ⟨place, bytes, (hframe.place?_eq path).trans hplace,
    (hframe.content?_eq place hother).trans hcontent,
    (hframe.isReadable_iff place hother).mpr hreadable, hdecode⟩

/-- Where two paths lead to one place, what is held under one is held under the other. -/
theorem FileView.HoldsText.of_place?_eq {ι : Type} {view : FileView ι} {path other text : String}
    (h : view.HoldsText path text) (hplace : view.place? other = view.place? path) :
    view.HoldsText other text := by
  rwa [HoldsText, hplace]

variable {σ ι : Type} {files : FileSystem (StateM σ)} {view : σ → FileView ι} {s after : σ}
  {path text directory : String} {file : SourceFile} {log log' : Log}

/-- What a file holds is read. -/
theorem FileSystem.Laws.reads_of_holdsText (laws : files.Laws view)
    (h : (view s).HoldsText path text) : files.Reads s path text := by
  obtain ⟨place, bytes, hplace, hcontent, hreadable, hdecode⟩ := h
  exact ⟨bytes, (laws.read_iff s path place bytes hplace).mpr ⟨hcontent, hreadable⟩, hdecode⟩

/-- What is read under a path that is not special is what a file holds. -/
theorem FileSystem.Laws.reads_iff (laws : files.Laws view)
    (hspecial : ¬ (view s).IsSpecial path) :
    files.Reads s path text ↔ (view s).HoldsText path text := by
  refine ⟨?_, laws.reads_of_holdsText⟩
  rintro ⟨bytes, hread, hdecode⟩
  obtain ⟨place, hplace⟩ :=
    Option.isSome_iff_exists.mp ((laws.read_target s path bytes hread).resolve_right hspecial)
  obtain ⟨hcontent, hreadable⟩ := (laws.read_iff s path place bytes hplace).mp hread
  exact ⟨place, bytes, hplace, hcontent, hreadable, hdecode⟩

/-- No two texts are read under a path. -/
theorem FileSystem.Reads.unique {text' : String} (h : files.Reads s path text)
    (h' : files.Reads s path text') : text = text' := by
  obtain ⟨bytes, hread, hdecode⟩ := h
  obtain ⟨bytes', hread', hdecode'⟩ := h'
  obtain rfl : bytes = bytes' := Except.ok.inj (hread.symm.trans hread')
  exact Except.ok.inj (hdecode.symm.trans hdecode')

/-! ## Comparing a file with its text -/

/-- Where there is no file, none holds a text. -/
theorem fileHolds_run_of_not_isFile (laws : files.Laws view) (text : String)
    (h : ((files.isFile path).run s).1 = false) :
    (fileHolds files path text).run s = (.ok false, s) := by
  rw [fileHolds, run_bind_state, h, laws.isFile_state]
  rfl

/-- A file is read to be compared. -/
theorem fileHolds_run_of_isFile (laws : files.Laws view) (text : String)
    (h : ((files.isFile path).run s).1 = true) :
    (fileHolds files path text).run s =
      (((files.read path).run s).1.map fun bytes =>
        (decodeFile bytes).toOption == some text, ((files.read path).run s).2) := by
  rw [fileHolds, run_bind_state, h, laws.isFile_state, if_pos rfl, run_bind_state]
  generalize (files.read path).run s = read
  obtain ⟨content, after⟩ := read
  cases content with
  | error e => rfl
  | ok bytes =>
    dsimp only [Except.map]
    cases decodeFile bytes with
    | error fault => rfl
    | ok content =>
      exact congrArg (fun holds => (Except.ok holds, after)) (by simp [Except.toOption])

/-- Comparing a file changes none. -/
theorem view_fileHolds (laws : files.Laws view) (s : σ) (path text : String) :
    view ((fileHolds files path text).run s).2 = view s := by
  cases hfile : ((files.isFile path).run s).1 with
  | false => rw [fileHolds_run_of_not_isFile laws text hfile]
  | true => rw [fileHolds_run_of_isFile laws text hfile, laws.view_read]

/-- A text that a file is found to hold is read. -/
theorem reads_of_fileHolds_eq_true (laws : files.Laws view)
    (h : ((fileHolds files path text).run s).1 = .ok true) : files.Reads s path text := by
  cases hfile : ((files.isFile path).run s).1 with
  | false =>
    rw [fileHolds_run_of_not_isFile laws text hfile] at h
    cases h
  | true =>
    rw [fileHolds_run_of_isFile laws text hfile] at h
    cases hread : ((files.read path).run s).1 with
    | error e =>
      rw [hread] at h
      cases h
    | ok bytes =>
      rw [hread] at h
      have hdecode := beq_iff_eq.mp (Except.ok.inj h)
      cases hcontent : decodeFile bytes with
      | error fault =>
        rw [hcontent] at hdecode
        cases hdecode
      | ok content =>
        rw [hcontent] at hdecode
        exact ⟨bytes, hread, hcontent.trans (congrArg Except.ok (Option.some.inj hdecode))⟩

/-- A file is found to hold a text exactly if it does. -/
theorem fileHolds_eq_true_iff (laws : files.Laws view) (hspecial : ¬ (view s).IsSpecial path) :
    ((fileHolds files path text).run s).1 = .ok true ↔ (view s).HoldsText path text := by
  refine ⟨fun h => (laws.reads_iff hspecial).mp (reads_of_fileHolds_eq_true laws h), ?_⟩
  intro h
  obtain ⟨place, bytes, hplace, hcontent, hreadable, hdecode⟩ := h
  have hfile : ((files.isFile path).run s).1 = true :=
    (laws.isFile_iff s path place hplace).mpr (by simp [hcontent])
  have hread := (laws.read_iff s path place bytes hplace).mpr ⟨hcontent, hreadable⟩
  rw [fileHolds_run_of_isFile laws text hfile, hread]
  simp [Except.map, Except.toOption, hdecode]

/-- A file that was compared and differs may be read, or there is none. -/
theorem readable_of_fileHolds_eq_false (laws : files.Laws view) {place : ι}
    (hplace : (view s).place? path = some place)
    (h : ((fileHolds files path text).run s).1 = .ok false) :
    (view s).content? place = none ∨ (view s).IsReadable place := by
  cases hfile : ((files.isFile path).run s).1 with
  -- What is not even found to be a file is none.
  | false =>
    left
    by_contra hcontent
    rw [(laws.isFile_iff s path place hplace).mpr hcontent] at hfile
    cases hfile
  | true =>
    right
    rw [fileHolds_run_of_isFile laws text hfile] at h
    cases hread : ((files.read path).run s).1 with
    | error e =>
      rw [hread] at h
      cases h
    | ok bytes => exact ((laws.read_iff s path place bytes hplace).mp hread).2

/-- A file that may be read can be compared. -/
theorem fileHolds_ne_error (laws : files.Laws view) (hspecial : ¬ (view s).IsSpecial path)
    (hreadable : ∀ place, (view s).place? path = some place → (view s).content? place ≠ none →
      (view s).IsReadable place) (text : String) (e : FileError) :
    ((fileHolds files path text).run s).1 ≠ .error e := by
  cases hfile : ((files.isFile path).run s).1 with
  | false => simp [fileHolds_run_of_not_isFile laws text hfile]
  | true =>
    obtain ⟨place, hplace⟩ :=
      Option.isSome_iff_exists.mp ((laws.isFile_target s path hfile).resolve_right hspecial)
    have hcontent := (laws.isFile_iff s path place hplace).mp hfile
    obtain ⟨bytes, hbytes⟩ := Option.ne_none_iff_exists'.mp hcontent
    have hread := (laws.read_iff s path place bytes hplace).mpr
      ⟨hbytes, hreadable place hplace hcontent⟩
    rw [fileHolds_run_of_isFile laws text hfile, hread]
    simp [Except.map]

/-- A path is found to be one when a file is compared. -/
theorem fileHolds_ne_null (laws : files.Laws view) (hnull : '\x00' ∉ path.toList) :
    ((fileHolds files path text).run s).1 ≠ .error .nullCharacter := by
  cases hfile : ((files.isFile path).run s).1 with
  | false => simp [fileHolds_run_of_not_isFile laws text hfile]
  | true =>
    have hread := laws.read_ne_null s path hnull
    rw [fileHolds_run_of_isFile laws text hfile]
    cases hcontent : ((files.read path).run s).1 with
    | error e =>
      rw [hcontent] at hread
      simpa [Except.map] using hread
    | ok bytes => simp [Except.map]

/-! ## One file -/

/-- What is reported of a file that cannot be written, or not even be compared. -/
def failedMessage (path : String) (e : FileError) : String :=
  "writing file at path " ++ path ++ " failed: " ++ e.message path

/-- A file of a directory is attempted: what the files and the log are afterwards. -/
inductive Attempt (files : FileSystem (StateM σ)) (directory : String) (file : SourceFile)
    (s : σ) (log : Log) : σ → Log → Prop
  /-- The file holds its text already, so it is left alone. -/
  | unchanged {after : σ}
    (h : (fileHolds files (Path.join directory file.name) file.text).run s = (.ok true, after)) :
    Attempt files directory file s log after (log.detail ("file " ++ file.name ++ " is unchanged"))
  /-- There is a file that cannot be compared. It is left alone too, and that is reported. -/
  | unread {after : σ} {e : FileError}
    (h : (fileHolds files (Path.join directory file.name) file.text).run s = (.error e, after)) :
    Attempt files directory file s log after
      (log.error (failedMessage (Path.join directory file.name) e))
  /-- The file is written. -/
  | written {middle after : σ} {bytes : List UInt8}
    (h : (fileHolds files (Path.join directory file.name) file.text).run s = (.ok false, middle))
    (hencode : files.encode file.text = .ok bytes)
    (hwrite : (files.write (Path.join directory file.name) bytes).run middle = (.ok (), after)) :
    Attempt files directory file s log after (log.note ("generated file " ++ file.name))
  /-- The file cannot be written, which is reported. -/
  | refused {middle after : σ} {e : FileError}
    (h : (fileHolds files (Path.join directory file.name) file.text).run s = (.ok false, middle))
    (hwrite : (files.write (Path.join directory file.name) (files.bytesOf file.text)).run middle =
      (.error e, after)) :
    Attempt files directory file s log after
      (log.error (failedMessage (Path.join directory file.name) e))

/-- The bytes of a text that can be encoded. -/
theorem FileSystem.bytesOf_eq {bytes : List UInt8} (h : files.encode text = .ok bytes) :
    files.bytesOf text = bytes := by
  rw [bytesOf, h]
  rfl

/-- A file that is refused is reported, unless its path is none. -/
theorem refuseOutput_on (log : Log) (s : σ) (path : String) (e : FileError) :
    (refuseOutput path e : Run (StateM σ) Unit).on log s =
      if e = .nullCharacter then ⟨.error (.badPath e), log, s⟩
      else ⟨.ok (), log.error (failedMessage path e), s⟩ := by
  rw [refuseOutput]
  split_ifs <;> rfl

/-- A run that goes on after a file has attempted it. -/
theorem exists_attempt_of_outcome_eq_ok
    (h : ((writeOutput files directory file).on log s).outcome = .ok ()) :
    ∃ after log', (writeOutput files directory file).on log s = ⟨.ok (), log', after⟩ ∧
      Attempt files directory file s log after log' := by
  rw [writeOutput, Run.on_files_bind] at h ⊢
  -- The comparison fails, or it finds a difference, or it finds none.
  rcases hcompare : (fileHolds files (Path.join directory file.name) file.text).run s with
    ⟨e | _ | _, middle⟩
  · rw [hcompare] at h
    dsimp only at h ⊢
    rw [refuseOutput_on] at h ⊢
    -- A path that is none would have ended the run.
    split_ifs at h ⊢
    exact ⟨_, _, rfl, .unread hcompare⟩
  · rw [hcompare] at h
    dsimp only at h ⊢
    rw [Run.on_files_bind] at h ⊢
    rcases hwrite : (files.write (Path.join directory file.name)
      (files.bytesOf file.text)).run middle with ⟨e | ⟨⟩, after⟩
    · rw [hwrite] at h
      dsimp only at h ⊢
      rw [refuseOutput_on] at h ⊢
      split_ifs at h ⊢
      exact ⟨_, _, rfl, .refused hcompare hwrite⟩
    · rw [hwrite] at h
      dsimp only at h ⊢
      cases hencode : files.encode file.text with
      | error fault =>
        rw [hencode] at h
        cases h
      | ok bytes =>
        rw [FileSystem.bytesOf_eq hencode] at hwrite
        exact ⟨_, _, rfl, .written hcompare hencode hwrite⟩
  · exact ⟨_, _, rfl, .unchanged hcompare⟩

/-- A run goes on after a file whose text can be encoded, if its path is one. -/
theorem outcome_writeOutput_on (laws : files.Laws view) (log : Log) (s : σ)
    (hnull : '\x00' ∉ (Path.join directory file.name).toList)
    (hencode : ∃ bytes, files.encode file.text = .ok bytes) :
    ((writeOutput files directory file).on log s).outcome = .ok () := by
  have hrefuse {e : FileError} (he : e ≠ .nullCharacter) (s : σ) :
      ((refuseOutput (Path.join directory file.name) e : Run (StateM σ) Unit).on log s).outcome =
        .ok () := by
    rw [refuseOutput_on, if_neg he]
  have hcompare : ((fileHolds files _ file.text).run s).1 ≠ .error .nullCharacter :=
    fileHolds_ne_null laws hnull
  rw [writeOutput, Run.on_files_bind]
  generalize (fileHolds files _ file.text).run s = compared at hcompare
  obtain ⟨e | _ | _, middle⟩ := compared
  · exact hrefuse (by simpa using hcompare) middle
  · have hwrite := laws.write_ne_null middle _ (files.bytesOf file.text) hnull
    dsimp only
    rw [Run.on_files_bind]
    generalize (files.write _ (files.bytesOf file.text)).run middle = written at hwrite
    obtain ⟨e | ⟨⟩, after⟩ := written
    · exact hrefuse (by simpa using hwrite) after
    · obtain ⟨bytes, hbytes⟩ := hencode
      dsimp only
      rw [hbytes]
      rfl
  · rfl

/-- Whether a file fails when it is its turn: it cannot be compared, or it differs and cannot be
written. -/
def FileSystem.fails (files : FileSystem (StateM σ)) (directory : String)
    (turn : σ × SourceFile) : Bool :=
  match (fileHolds files (Path.join directory turn.2.name) turn.2.text).run turn.1 with
  | (.error _, _) => true
  | (.ok true, _) => false
  | (.ok false, s) =>
    !((files.write (Path.join directory turn.2.name) (files.bytesOf turn.2.text)).run s).1.isOk

/-- A file fails if there is one already that cannot be read. -/
theorem fails_of_read_eq_error (laws : files.Laws view) {e : FileError}
    (hfile : ((files.isFile (Path.join directory file.name)).run s).1 = true)
    (hread : ((files.read (Path.join directory file.name)).run s).1 = .error e) :
    files.fails directory (s, file) = true := by
  rw [FileSystem.fails, fileHolds_run_of_isFile laws file.text hfile, hread]
  rfl

/-- A file whose text cannot be encoded ends the run, after it was opened. -/
theorem writeOutput_on_of_encode_eq_error {middle : σ} {fault : Text.EncodeFault} (log : Log)
    (hcompare : (fileHolds files (Path.join directory file.name) file.text).run s =
      (.ok false, middle))
    (hwrite : (files.write (Path.join directory file.name) []).run middle = (.ok (), after))
    (hencode : files.encode file.text = .error fault) :
    (writeOutput files directory file).on log s = ⟨.error (.badText fault), log, after⟩ := by
  have hbytes : files.bytesOf file.text = [] := by
    rw [FileSystem.bytesOf, hencode]
    rfl
  rw [writeOutput, Run.on_files_bind, hcompare]
  dsimp only
  rw [Run.on_files_bind, hbytes, hwrite]
  dsimp only
  rw [hencode]
  rfl

/-- A file is refused when it is its turn: it does not hold its text, and it cannot be written. -/
def FileSystem.Refuses (files : FileSystem (StateM σ)) (view : σ → FileView ι) (directory : String)
    (turn : σ × SourceFile) : Prop :=
  ¬ (view turn.1).HoldsText (Path.join directory turn.2.name) turn.2.text ∧
    ∃ e, ((files.write (Path.join directory turn.2.name) (files.bytesOf turn.2.text)).run
      -- It is written after it was compared.
      ((fileHolds files (Path.join directory turn.2.name) turn.2.text).run turn.1).2).1 = .error e

/-- A file that may be read fails only if it is refused. -/
theorem fails_iff_refuses (laws : files.Laws view) {turn : σ × SourceFile}
    (hspecial : ¬ (view turn.1).IsSpecial (Path.join directory turn.2.name))
    (hreadable : ∀ place, (view turn.1).place? (Path.join directory turn.2.name) = some place →
      (view turn.1).content? place ≠ none → (view turn.1).IsReadable place) :
    files.fails directory turn = true ↔ files.Refuses view directory turn := by
  have hcompare := fileHolds_ne_error laws hspecial hreadable turn.2.text
  rw [FileSystem.Refuses, ← fileHolds_eq_true_iff laws hspecial, FileSystem.fails]
  generalize (fileHolds files _ turn.2.text).run turn.1 = compared at hcompare
  obtain ⟨e | _ | _, middle⟩ := compared
  · exact absurd rfl (hcompare e)
  · dsimp only
    cases ((files.write (Path.join directory turn.2.name) _).run middle).1 <;>
      simp [Except.isOk, Except.toBool]
  · simp

namespace Attempt

/-- An attempt changes no other place. -/
theorem frame (laws : files.Laws view) (h : Attempt files directory file s log after log') :
    FileView.Frame (fun place => (view s).place? (Path.join directory file.name) = some place)
      (view s) (view after) := by
  have hview := view_fileHolds laws s (Path.join directory file.name) file.text
  cases h with
  | unchanged h | unread h =>
    rw [h] at hview
    exact hview ▸ .refl _ _
  | @written middle _ bytes h _ hwrite =>
    rw [h] at hview
    have hframe := laws.frame_write middle (Path.join directory file.name) bytes
    rwa [hwrite, hview] at hframe
  | @refused middle _ e h hwrite =>
    rw [h] at hview
    have hframe := laws.frame_write middle (Path.join directory file.name)
      (files.bytesOf file.text)
    rwa [hwrite, hview] at hframe

/-- A file that fails is one error more. -/
theorem errors_eq (h : Attempt files directory file s log after log') :
    log'.errors = log.errors + if files.fails directory (s, file) then 1 else 0 := by
  cases h with
  | unchanged h => simp [FileSystem.fails, h]
  | unread h =>
    simp only [FileSystem.fails, h, if_true]
    rfl
  | written h hencode hwrite =>
    simp only [FileSystem.fails, h, FileSystem.bytesOf_eq hencode, hwrite]
    rfl
  | refused h hwrite =>
    simp only [FileSystem.fails, h, hwrite]
    rfl

/-- A file that does not fail holds its text after the attempt. -/
theorem holdsText (laws : files.Laws view) (h : Attempt files directory file s log after log')
    (hspecial : ¬ (view s).IsSpecial (Path.join directory file.name))
    (hnew : ∀ place, (view s).place? (Path.join directory file.name) = some place →
      (view s).content? place = none → (view s).IsReadable place)
    (hfails : files.fails directory (s, file) = false) :
    (view after).HoldsText (Path.join directory file.name) file.unifiedText := by
  have hview := view_fileHolds laws s (Path.join directory file.name) file.text
  unfold FileSystem.fails at hfails
  cases h with
  | unchanged h =>
    rw [h] at hview
    have hholds := (fileHolds_eq_true_iff laws hspecial).mp (congrArg Prod.fst h)
    obtain ⟨_, _, _, _, _, hdecode⟩ := id hholds
    rw [SourceFile.unifiedText, unifyLineEnds_of_decodeFile hdecode]
    exact hview ▸ hholds
  | unread h =>
    rw [h] at hfails
    cases hfails
  | @written middle _ bytes h hencode hwrite =>
    rw [h] at hview
    have hok : ((files.write (Path.join directory file.name) bytes).run middle).1 = .ok () := by
      rw [hwrite]
    obtain ⟨place, hplace⟩ := Option.isSome_iff_exists.mp
      ((laws.write_target middle _ bytes hok).resolve_right (hview ▸ hspecial))
    have hcontent := laws.content?_write middle _ bytes place hplace hok
    -- Either there was no file, or it was read to be compared.
    have hreadable := laws.isReadable_write middle _ bytes place hplace hok <| by
      rw [hview] at hplace ⊢
      exact (readable_of_fileHolds_eq_false laws hplace (congrArg Prod.fst h)).elim
        (hnew place hplace) id
    have hframe := laws.frame_write middle (Path.join directory file.name) bytes
    rw [hwrite] at hcontent hreadable hframe
    refine ⟨place, bytes, (hframe.place?_eq _).trans hplace, hcontent, hreadable, ?_⟩
    rw [laws.encode_eq _ _ hencode, decodeFile_encode, SourceFile.unifiedText]
  | refused h hwrite =>
    rw [h] at hfails
    dsimp only at hfails
    rw [hwrite] at hfails
    cases hfails

end Attempt

/-! ## Files one after the other -/

/-- Files of a directory are attempted one after the other, each of them when it is its turn. -/
inductive Attempts (files : FileSystem (StateM σ)) (directory : String) :
    σ → Log → List (σ × SourceFile) → σ → Log → Prop
  | nil {s : σ} {log : Log} : Attempts files directory s log [] s log
  | cons {s middle after : σ} {log log' log'' : Log} {file : SourceFile}
    {turns : List (σ × SourceFile)} (hfirst : Attempt files directory file s log middle log')
    (hrest : Attempts files directory middle log' turns after log'') :
    Attempts files directory s log ((s, file) :: turns) after log''

/-- The paths of the files whose turns there are. -/
def turnPaths (directory : String) (turns : List (σ × SourceFile)) : List String :=
  turns.map fun turn => Path.join directory turn.2.name

variable {sources : List SourceFile} {turns : List (σ × SourceFile)}

/-- A run that goes on after files has attempted all of them in order. -/
theorem exists_attempts_of_outcome_eq_ok
    (h : ((sources.forM (writeOutput files directory)).on log s).outcome = .ok ()) :
    ∃ turns after log', (sources.forM (writeOutput files directory)).on log s =
        ⟨.ok (), log', after⟩ ∧
      turns.map Prod.snd = sources ∧ Attempts files directory s log turns after log' := by
  induction sources generalizing s log with
  | nil => exact ⟨[], s, log, rfl, rfl, .nil⟩
  | cons file sources ih =>
    obtain ⟨⟨⟩, hfirst, -⟩ := Run.exists_of_on_bind_eq_ok h
    obtain ⟨middle, log', hrun, hattempt⟩ := exists_attempt_of_outcome_eq_ok hfirst
    rw [Run.on_forM_cons hrun] at h ⊢
    obtain ⟨turns, after, log'', hruns, hturns, hattempts⟩ := ih h
    exact ⟨(s, file) :: turns, after, log'', hruns, congrArg (file :: ·) hturns,
      .cons hattempt hattempts⟩

/-- A run goes on after files whose texts can be encoded, if their paths are some. -/
theorem outcome_forM_writeOutput_on (laws : files.Laws view) (log : Log) (s : σ)
    (hnull : ∀ file ∈ sources, '\x00' ∉ (Path.join directory file.name).toList)
    (hencode : ∀ file ∈ sources, ∃ bytes, files.encode file.text = .ok bytes) :
    ((sources.forM (writeOutput files directory)).on log s).outcome = .ok () := by
  induction sources generalizing s log with
  | nil => rfl
  | cons file sources ih =>
    obtain ⟨hnull, hnulls⟩ := List.forall_mem_cons.mp hnull
    obtain ⟨hencode, hencodes⟩ := List.forall_mem_cons.mp hencode
    obtain ⟨middle, log', hrun, -⟩ :=
      exists_attempt_of_outcome_eq_ok (outcome_writeOutput_on laws log s hnull hencode)
    rw [Run.on_forM_cons hrun]
    exact ih log' middle hnulls hencodes

namespace Attempts

/-- Attempts change no place but those of the files. -/
theorem frame (laws : files.Laws view) (h : Attempts files directory s log turns after log') :
    FileView.Frame ((view s).IsPlaceOf (turnPaths directory turns)) (view s) (view after) := by
  induction h with
  | nil => exact .refl _ _
  | cons hfirst _ ih =>
    have hframe := hfirst.frame laws
    refine .trans (hframe.mono fun place hplace => ⟨_, List.mem_cons_self, hplace⟩) (ih.mono ?_)
    -- The paths of the other files lead to the same places as before.
    rintro place ⟨path, hpath, hplace⟩
    exact ⟨path, List.mem_cons_of_mem _ hpath, (hframe.place?_eq path).symm.trans hplace⟩

/-- The errors of attempts are the files that fail. -/
theorem errors_eq (h : Attempts files directory s log turns after log') :
    log'.errors = log.errors + turns.countP (files.fails directory) := by
  induction h with
  | nil => rfl
  | cons hfirst _ ih =>
    rw [ih, hfirst.errors_eq, List.countP_cons]
    omega

/-- Files at different places hold their texts after all attempts, if they do not fail. -/
theorem holdsText (laws : files.Laws view)
    (h : Attempts files directory s log turns after log')
    (hapart : (view s).Apart (turnPaths directory turns)) :
    ∀ turn ∈ turns, files.fails directory turn = false →
      (view after).HoldsText (Path.join directory turn.2.name) turn.2.unifiedText := by
  induction h with
  | nil => exact List.forall_mem_nil _
  | @cons s middle _ _ _ _ file turns hfirst hrest ih =>
    have hframe := hfirst.frame laws
    refine List.forall_mem_cons.mpr ⟨fun hfails => ?_, ih (hapart.tail.of_frame hframe ?_)⟩
    -- The file is written first, and the others are written elsewhere.
    · have hholds := hfirst.holdsText laws (hapart.not_isSpecial _ List.mem_cons_self)
        (hapart.isReadable_new _ List.mem_cons_self) hfails
      refine hholds.of_frame (hrest.frame laws) ?_
      rintro place hplace ⟨path, hpath, hother⟩
      rw [hframe.place?_eq] at hplace hother
      exact List.rel_of_pairwise_cons hapart.pairwise hpath place hplace hother
    · intro path hpath place hplace hfirstPlace
      exact List.rel_of_pairwise_cons hapart.pairwise hpath place hfirstPlace hplace

/-- Files at different places that may be read fail only if they are refused. -/
theorem fails_iff (laws : files.Laws view)
    (h : Attempts files directory s log turns after log')
    (hordinary : (view s).Ordinary (turnPaths directory turns)) :
    ∀ turn ∈ turns, files.fails directory turn = true ↔ files.Refuses view directory turn := by
  induction h with
  | nil => exact List.forall_mem_nil _
  | @cons s middle _ _ _ _ file turns hfirst _ ih =>
    refine List.forall_mem_cons.mpr ⟨?_, ih (hordinary.tail.of_frame (hfirst.frame laws) ?_)⟩
    · exact fails_iff_refuses laws (hordinary.not_isSpecial _ List.mem_cons_self)
        (hordinary.isReadable _ List.mem_cons_self)
    · intro path hpath place hplace hfirstPlace
      exact List.rel_of_pairwise_cons hordinary.pairwise hpath place hfirstPlace hplace

end Attempts

end SyntaxBridge
