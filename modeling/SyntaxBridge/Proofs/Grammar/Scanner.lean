import SyntaxBridge.Grammar.Parser
import SyntaxBridge.Proofs.Outcome
import SyntaxBridge.Proofs.Text.Cutting

/-!
# Definitions, scanned in one pass

Literals are searched for from the left: a space is put for each one that is found, and where a
quote opens none, the search goes on behind that quote and may pair up others. What is left is cut
into words, unless a quote is left (`cleanConstruction_eq_substitute`). A scanner goes through the
same text character by character and only remembers whether it stands in a literal, and which run
of characters it is reading outside of them. Both read the same from every text
(`readsAsScanned`): a quote that opens no literal stays, and the scanner never gets out of what it
opens (`behind_ne_of_erase?_eq_none`).
-/

namespace SyntaxBridge

open Outcome Text

namespace Literal

/-! ## The search -/

/-- A text goes on behind a literal that was opened in front of it: after characters that stand for
themselves, or that a backslash takes along, a quote ends the literal. -/
inductive Closes : List Char → List Char → Prop
  | quote {after : List Char} : Closes ('"' :: after) after
  | plain {c : Char} {cs after : List Char} (hquote : c ≠ '"') (hslash : c ≠ '\\') :
    Closes cs after → Closes (c :: cs) after
  | escaped {c : Char} {cs after : List Char} (hend : c ≠ '\n') :
    Closes cs after → Closes ('\\' :: c :: cs) after

variable {cs after : List Char}

/-- There is one way at most to end a literal, and it is found. -/
theorem rest?_eq_some_iff : rest? cs = some after ↔ Closes cs after := by
  constructor
  · intro h
    fun_induction rest? cs with
    | case1 => cases h
    | case2 cs =>
      cases h
      exact .quote
    | case3 => cases h
    | case4 c cs hend ih => exact .escaped hend (ih h)
    | case5 => cases h
    | case6 c cs hquote hslash hlast ih =>
      -- A backslash would be the last character, or take the next one along.
      have hne : c ≠ '\\' := by
        rintro rfl
        cases cs with
        | nil => exact hlast rfl rfl
        | cons d cs => exact hslash d cs rfl rfl
      exact .plain hquote hne (ih h)
  · intro h
    induction h with
    | quote => rw [rest?]
    | plain hquote hslash _ ih =>
      rw [rest?.eq_5 _ _ hquote (fun _ _ h _ => hslash h) fun h _ => hslash h, ih]
    | escaped hend _ ih => rw [rest?, if_neg hend, ih]

/-- A text with a space for every literal that is found from the left. A quote that opens no literal
is left alone, and the search goes on behind it. -/
def substitute : List Char → List Char
  | [] => []
  | c :: cs =>
    if c = '"' then
      match h : rest? cs with
      | some after =>
        have := rest?_length_lt h
        ' ' :: substitute after
      | none => c :: substitute cs
    else c :: substitute cs
termination_by cs => cs.length

/-- All literals of a text end exactly if the search leaves no quote. -/
theorem erase?_eq_substitute (cs : List Char) :
    erase? cs = if '"' ∈ substitute cs then none else some (substitute cs) := by
  fun_induction erase? cs with
  | case1 => simp [substitute]
  | case2 cs after hrest _ ih =>
    have hsub : substitute ('"' :: cs) = ' ' :: substitute after := by
      rw [substitute, if_pos rfl]
      split <;> simp_all
    rw [hsub, ih]
    by_cases hquote : '"' ∈ substitute after <;> simp [hquote]
  | case3 cs hrest =>
    -- The quote itself is left.
    have hsub : substitute ('"' :: cs) = '"' :: substitute cs := by
      rw [substitute, if_pos rfl]
      split <;> simp_all
    rw [hsub, if_pos List.mem_cons_self]
  | case4 c cs hc ih =>
    have hsub : substitute (c :: cs) = c :: substitute cs := by rw [substitute, if_neg hc]
    rw [hsub, ih]
    by_cases hquote : '"' ∈ substitute cs <;> simp [hquote, Ne.symm hc]

/-! ## The scanner -/

/-- Where a scanner stands. -/
inductive Mode where
  /-- Outside of literals. -/
  | outside
  /-- In a literal. -/
  | inside
  /-- In a literal, behind a backslash that takes the next character along. -/
  | escape
  /-- Behind a backslash that took a line feed along. There is no way on from here. -/
  | stuck
  deriving DecidableEq, Repr

/-- Where a scanner stands after one more character. -/
def Mode.next : Mode → Char → Mode
  | outside, c => if c = '"' then inside else outside
  | inside, c => if c = '"' then outside else if c = '\\' then escape else inside
  | escape, c => if c = '\n' then stuck else inside
  | stuck, _ => stuck

/-- Where a scanner stands behind a text. -/
def Mode.behind (mode : Mode) (cs : List Char) : Mode :=
  cs.foldl Mode.next mode

/-- A text with a space in the place of every character of a literal. -/
def blankOut (mode : Mode) : List Char → List Char
  | [] => []
  | c :: cs => (if mode = .outside ∧ c ≠ '"' then c else ' ') :: blankOut (mode.next c) cs

/-- A run in front of white space or of nothing is a word, if there is anything of it. -/
theorem words_run_append {run rest : List Char} (hrun : ∀ c ∈ run, isBlank c = false)
    (hrest : ∀ c ∈ rest.head?, isBlank c = true) :
    words (run ++ rest) = (if run.isEmpty then [] else [run]) ++ words rest := by
  cases run with
  | nil => rfl
  | cons c run => exact words_append (List.cons_ne_nil c run) hrun hrest

/-- A scanner and the runs of characters that it has read outside of literals and white space. -/
structure Scanner where
  /-- Where it stands. -/
  mode : Mode := .outside
  /-- The run that it is reading. -/
  run : List Char := []
  /-- The runs that it has read, in order. -/
  runs : List (List Char) := []
  deriving DecidableEq, Repr

namespace Scanner

/-- The runs with the one that is being read, if anything was read of it. -/
def finished (scanner : Scanner) : List (List Char) :=
  scanner.runs ++ if scanner.run.isEmpty then [] else [scanner.run]

/-- A scanner after one more character. The character goes to the run, or it ends the run. -/
def next (scanner : Scanner) (c : Char) : Scanner :=
  if scanner.mode = .outside ∧ c ≠ '"' ∧ isBlank c = false then
    { scanner with mode := scanner.mode.next c, run := scanner.run ++ [c] }
  else { mode := scanner.mode.next c, run := [], runs := scanner.finished }

/-- A scanner behind a text. -/
def scan (cs : List Char) : Scanner :=
  cs.foldl next {}

variable (scanner : Scanner)

@[simp]
theorem mode_next (c : Char) : (scanner.next c).mode = scanner.mode.next c := by
  unfold next
  split <;> rfl

/-- Reading runs does not change where a scanner stands. -/
theorem mode_foldl_next (cs : List Char) :
    (cs.foldl next scanner).mode = scanner.mode.behind cs := by
  induction cs generalizing scanner with
  | nil => rfl
  | cons c cs ih => rw [List.foldl_cons, ih, mode_next, Mode.behind, Mode.behind, List.foldl_cons]

/-- The runs that are read are the words outside of literals. -/
theorem finished_foldl_next (cs : List Char) (hrun : ∀ c ∈ scanner.run, isBlank c = false) :
    (cs.foldl next scanner).finished =
      scanner.runs ++ words (scanner.run ++ blankOut scanner.mode cs) := by
  -- The induction is on the text. The run that is being read is put in front of what is left of it.
  induction cs generalizing scanner with
  | nil =>
    rw [List.foldl_nil, blankOut, words_run_append hrun (by simp)]
    simp [finished, words, splitWhere]
  | cons c cs ih =>
    rw [List.foldl_cons, blankOut]
    by_cases hread : scanner.mode = .outside ∧ c ≠ '"' ∧ isBlank c = false
    · have hnext : scanner.next c =
          { scanner with mode := scanner.mode.next c, run := scanner.run ++ [c] } := if_pos hread
      have hrun : ∀ d ∈ scanner.run ++ [c], isBlank d = false :=
        List.forall_mem_append.mpr ⟨hrun, List.forall_mem_singleton.mpr hread.2.2⟩
      rw [hnext, ih _ hrun, if_pos ⟨hread.1, hread.2.1⟩, List.append_assoc]
      rfl
    · -- The run ends here, at white space or at a character that is blanked out.
      have hnext : scanner.next c =
          { mode := scanner.mode.next c, run := [], runs := scanner.finished } := if_neg hread
      have hblank : isBlank (if scanner.mode = .outside ∧ c ≠ '"' then c else ' ') = true := by
        split
        next houtside => simpa [houtside] using hread
        next => decide
      rw [hnext, ih _ (by simp), words_run_append hrun (by simpa using hblank),
        words_cons_of_isBlank hblank, finished, List.append_assoc]
      rfl

end Scanner

/-! ## The scanner finds what the search finds -/

theorem Mode.behind_cons (mode : Mode) (c : Char) (cs : List Char) :
    mode.behind (c :: cs) = (mode.next c).behind cs := rfl

/-- There is no way on behind a backslash and a line feed. -/
theorem Mode.behind_stuck (cs : List Char) : Mode.stuck.behind cs = .stuck := by
  induction cs with
  | nil => rfl
  | cons c cs ih => exact ih

/-- A scanner gets out of a literal where it is ended, and all of it is blanked out. -/
theorem Closes.behind_eq (h : Closes cs after) :
    Mode.inside.behind cs = Mode.outside.behind after ∧
      ∃ blanks, allBlank blanks = true ∧
        blankOut .inside cs = blanks ++ blankOut .outside after := by
  have hspace : isBlank ' ' = true := by decide
  induction h with
  | quote => exact ⟨rfl, [' '], by decide, rfl⟩
  | @plain c cs after hquote hslash _ ih =>
    have hnext : Mode.inside.next c = .inside := by
      rw [Mode.next, if_neg hquote, if_neg hslash]
    obtain ⟨hbehind, blanks, hblanks, hout⟩ := ih
    refine ⟨by rw [Mode.behind_cons, hnext, hbehind], ' ' :: blanks,
      Bool.and_eq_true_iff.mpr ⟨hspace, hblanks⟩, ?_⟩
    rw [blankOut, hnext, hout]
    rfl
  | @escaped c cs after hend _ ih =>
    have hescape : Mode.inside.next '\\' = .escape := by decide
    have hnext : Mode.escape.next c = .inside := if_neg hend
    obtain ⟨hbehind, blanks, hblanks, hout⟩ := ih
    refine ⟨by rw [Mode.behind_cons, hescape, Mode.behind_cons, hnext, hbehind],
      ' ' :: ' ' :: blanks, Bool.and_eq_true_iff.mpr ⟨hspace, Bool.and_eq_true_iff.mpr
        ⟨hspace, hblanks⟩⟩, ?_⟩
    rw [blankOut, hescape, blankOut, hnext, hout]
    rfl

/-- A scanner that gets out of a literal found the end of it, whether or not it stood behind a
backslash. -/
theorem exists_closes_of_behind_eq (cs : List Char) :
    (Mode.inside.behind cs = .outside → ∃ after, Closes cs after) ∧
      (Mode.escape.behind cs = .outside → ∃ after, Closes ('\\' :: cs) after) := by
  -- A backslash leads from one of the two places to the other, so both go into one induction.
  induction cs with
  | nil => exact ⟨nofun, nofun⟩
  | cons c cs ih =>
    constructor
    · intro h
      by_cases hquote : c = '"'
      · exact ⟨cs, hquote ▸ .quote⟩
      by_cases hslash : c = '\\'
      · subst hslash
        exact ih.2 h
      · rw [Mode.behind_cons, Mode.next, if_neg hquote, if_neg hslash] at h
        obtain ⟨after, hafter⟩ := ih.1 h
        exact ⟨after, .plain hquote hslash hafter⟩
    · intro h
      by_cases hend : c = '\n'
      · rw [Mode.behind_cons, Mode.next, if_pos hend, Mode.behind_stuck] at h
        cases h
      · rw [Mode.behind_cons, Mode.next, if_neg hend] at h
        obtain ⟨after, hafter⟩ := ih.1 h
        exact ⟨after, .escaped hend hafter⟩

/-- A character that is no quote leaves a scanner outside. -/
theorem Mode.next_of_ne {c : Char} (h : c ≠ '"') : Mode.outside.next c = .outside :=
  if_neg h

/-- Where all literals are found, a scanner ends outside. -/
theorem behind_eq_of_erase?_eq_some {bare : List Char} (h : erase? cs = some bare) :
    Mode.outside.behind cs = .outside := by
  fun_induction erase? cs generalizing bare with
  | case1 => rfl
  | case2 cs after hrest _ ih =>
    obtain ⟨rest, hrest', -⟩ := Option.map_eq_some_iff.mp h
    exact (rest?_eq_some_iff.mp hrest).behind_eq.1.trans (ih hrest')
  | case3 => cases h
  | case4 c cs hc ih =>
    obtain ⟨rest, hrest, -⟩ := Option.map_eq_some_iff.mp h
    rw [Mode.behind_cons, Mode.next_of_ne hc, ih hrest]

/-- Where a literal is not found, a scanner does not end outside. -/
theorem behind_ne_of_erase?_eq_none (h : erase? cs = none) :
    Mode.outside.behind cs ≠ .outside := by
  fun_induction erase? cs with
  | case1 => cases h
  | case2 cs after hrest _ ih =>
    have hbehind : Mode.outside.behind ('"' :: cs) = Mode.outside.behind after :=
      (rest?_eq_some_iff.mp hrest).behind_eq.1
    rw [hbehind]
    exact ih (Option.map_eq_none_iff.mp h)
  | case3 cs hrest =>
    -- The search gave up on this quote, so nothing ends a literal that it opens.
    intro hout
    obtain ⟨after, hafter⟩ := (exists_closes_of_behind_eq cs).1 hout
    rw [rest?_eq_some_iff.mpr hafter] at hrest
    cases hrest
  | case4 c cs hc ih =>
    rw [Mode.behind_cons, Mode.next_of_ne hc]
    exact ih (Option.map_eq_none_iff.mp h)

/-- A space for each literal leaves the same words as blanking the literals out, also behind a word
that goes on. -/
theorem words_append_blankOut {front bare : List Char} (h : erase? cs = some bare)
    (hfront : ∀ c ∈ front, isBlank c = false) :
    words (front ++ blankOut .outside cs) = words (front ++ bare) := by
  have hspace : isBlank ' ' = true := by decide
  -- The induction follows the search. It is the word in front that makes it go through.
  fun_induction erase? cs generalizing front bare with
  | case1 => cases h; rfl
  | case2 cs after hrest _ ih =>
    obtain ⟨rest, hrest', rfl⟩ := Option.map_eq_some_iff.mp h
    obtain ⟨-, blanks, hblanks, hout⟩ := (rest?_eq_some_iff.mp hrest).behind_eq
    -- The literal ends the word in front, and what follows it is read by itself.
    have hblankOut : blankOut .outside ('"' :: cs) =
        ' ' :: (blanks ++ blankOut .outside after) := by
      rw [← hout]
      rfl
    have ih : words ([] ++ blankOut .outside after) = words ([] ++ rest) := ih hrest' (by simp)
    rw [hblankOut, words_run_append hfront (by simpa using hspace),
      words_run_append hfront (by simpa using hspace), words_cons_of_isBlank hspace,
      words_cons_of_isBlank hspace, words_append_of_allBlank hblanks]
    exact congrArg _ ih
  | case3 => cases h
  | case4 c cs hc ih =>
    obtain ⟨rest, hrest, rfl⟩ := Option.map_eq_some_iff.mp h
    have hblankOut : blankOut .outside (c :: cs) = c :: blankOut .outside cs := by
      rw [blankOut, if_pos ⟨rfl, hc⟩, Mode.next_of_ne hc]
    rw [hblankOut]
    by_cases hblank : isBlank c = true
    · have ih : words ([] ++ blankOut .outside cs) = words ([] ++ rest) := ih hrest (by simp)
      rw [words_run_append hfront (by simpa using hblank),
        words_run_append hfront (by simpa using hblank), words_cons_of_isBlank hblank,
        words_cons_of_isBlank hblank]
      exact congrArg _ ih
    · -- The word in front goes on with this character.
      have hword : ∀ d ∈ front ++ [c], isBlank d = false :=
        List.forall_mem_append.mpr ⟨hfront, List.forall_mem_singleton.mpr (by simpa using hblank)⟩
      simpa using ih hrest hword

end Literal

/-! ## Reading a definition -/

namespace Parser

open Literal

variable (text : List Char)

/-- A category that cannot be read is no literal that does not end. -/
theorem ne_of_cleanType_eq_error :
    ErrorsHave (· ≠ .unterminatedLiteral) (cleanType text) := by
  fun_induction cleanType text with
  | case1 text inner _ _ ih => exact ih.bind fun _ _ => errorsHave_ok _
  | case2 => exact errorsHave_error.mpr nofun
  | case3 => exact errorsHave_ok _

/-- A definition is cut into words where the literals were, unless a quote is left. -/
theorem cleanConstruction_eq_substitute :
    cleanConstruction text =
      if '"' ∈ substitute text then .error .unterminatedLiteral
      else (words (substitute text)).mapM cleanType := by
  rw [cleanConstruction, erase?_eq_substitute]
  split_ifs <;> rfl

/-- The runs that a scanner reads in all of a text. -/
theorem finished_scan : (Scanner.scan text).finished = words (blankOut .outside text) :=
  Scanner.finished_foldl_next {} text (by simp)

/-- Where a scanner stands behind all of a text. -/
theorem mode_scan : (Scanner.scan text).mode = Mode.outside.behind text :=
  Scanner.mode_foldl_next {} text

/-- A definition reads as its runs do if a scanner ends outside of literals, and not at all if it
does not. -/
theorem cleanConstruction_eq_scan :
    cleanConstruction text =
      if (Scanner.scan text).mode = .outside then (Scanner.scan text).finished.mapM cleanType
      else .error .unterminatedLiteral := by
  rw [cleanConstruction, mode_scan, finished_scan]
  cases h : erase? text with
  | none => rw [if_neg (behind_ne_of_erase?_eq_none h)]
  | some bare =>
    have hwords : words ([] ++ blankOut .outside text) = words ([] ++ bare) :=
      words_append_blankOut h (by simp)
    rw [List.nil_append, List.nil_append] at hwords
    rw [if_pos (behind_eq_of_erase?_eq_some h), hwords]

/-- What the search for literals makes of a definition is what a scanner makes of it. -/
structure ReadsAsScanned : Prop where
  /-- Literals are replaced where they are found from the left, and quotes may be left. -/
  searched : cleanConstruction text =
    if '"' ∈ substitute text then .error .unterminatedLiteral
    else (words (substitute text)).mapM cleanType
  /-- The runs are those of the text with the literals blanked out. -/
  runs_eq : (Scanner.scan text).finished = words (blankOut .outside text)
  /-- A literal does not end exactly if a scanner does not end outside. -/
  unterminated_iff :
    cleanConstruction text = .error .unterminatedLiteral ↔ (Scanner.scan text).mode ≠ .outside
  /-- The categories are those that the runs name, in order. -/
  ok_iff (elements : List (List Char)) :
    cleanConstruction text = .ok elements ↔ (Scanner.scan text).mode = .outside ∧
      List.Forall₂ (fun run element => cleanType run = .ok element) (Scanner.scan text).finished
        elements
  /-- If a scanner ends outside, a run is all that can be at fault. -/
  rejected (cause : Cause) : cleanConstruction text = .error cause →
    (Scanner.scan text).mode = .outside →
      ∃ run ∈ (Scanner.scan text).finished, cleanType run = .error cause

/-- Every text reads as it is scanned. -/
theorem readsAsScanned : ReadsAsScanned text where
  searched := cleanConstruction_eq_substitute text
  runs_eq := finished_scan text
  unterminated_iff := by
    rw [cleanConstruction_eq_scan]
    split_ifs with hmode
    · have hne : (Scanner.scan text).finished.mapM cleanType ≠ .error .unterminatedLiteral :=
        fun h => ErrorsHave.mapM (fun run _ => ne_of_cleanType_eq_error run) _ h rfl
      exact iff_of_false hne (not_not.mpr hmode)
    · exact iff_of_true rfl hmode
  ok_iff elements := by
    rw [cleanConstruction_eq_scan]
    split_ifs with hmode
    · rw [mapM_eq_ok_iff, and_iff_right hmode]
    · exact iff_of_false nofun fun h => hmode h.1
  rejected cause h hmode := by
    rw [cleanConstruction_eq_scan, if_pos hmode] at h
    obtain ⟨before, run, after, hruns, -, hrun⟩ := mapM_eq_error_iff.mp h
    exact ⟨run, by simp [hruns], hrun⟩

end Parser

end SyntaxBridge
