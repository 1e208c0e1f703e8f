import SyntaxBridge.Proofs.Text.Cutting

/-!
# The lines of a text

A text is cut at its line feeds by `splitOn`, which is the library's (`splitOn_eq`), so joining the
parts again gives the text back. The *ended lines* of a text are those that it has once its last
line is ended: the parts, with an empty one behind them unless there is one already.

* `isBare_trim`: what is left after trimming is bare, so trimming twice is trimming once;
* `exists_endedLines`: the ended lines of a text are some lines and an empty one;
* `splitOn_intercalate_lineFeed`: lines joined with line feeds are found again.
-/

namespace SyntaxBridge.Text

variable {cs : List Char}

/-! ## Trimming -/

/-- The first character that is left is no white space. -/
theorem isBlank_head?_trimStart : ∀ c ∈ (trimStart cs).head?, isBlank c = false := by
  intro c hc
  have hfirst := List.head?_dropWhile_not isBlank cs
  rw [trimStart] at hc
  rw [hc] at hfirst
  exact hfirst

/-- The last character that is left is no white space. -/
theorem isBlank_getLast?_trimEnd : ∀ c ∈ (trimEnd cs).getLast?, isBlank c = false := by
  intro c hc
  rw [trimEnd, dropEndWhile, List.getLast?_reverse] at hc
  exact isBlank_head?_trimStart c hc

/-- What trimming leaves is bare. -/
theorem isBare_trim (cs : List Char) : IsBare (trim cs) where
  head c hc := isBlank_head?_trimStart c (mem_head?_of_mem_head?_trimEnd hc)
  last := isBlank_getLast?_trimEnd

/-- Trimming twice is trimming once. -/
@[simp]
theorem trim_trim (cs : List Char) : trim (trim cs) = trim cs :=
  trim_eq_self (isBare_trim cs)

/-- Trimming drops characters and adds none. -/
theorem trim_sublist (cs : List Char) : (trim cs).Sublist cs := by
  have hend : ∀ ds : List Char, (trimEnd ds).Sublist ds := fun ds => by
    simpa [trimEnd, dropEndWhile] using
      (List.dropWhile_sublist (l := ds.reverse) isBlank).reverse
  exact (hend _).trans (List.dropWhile_sublist isBlank)

/-- A text is what is left after trimming, with white space around it. -/
theorem exists_eq_append_trim (cs : List Char) :
    ∃ before after, allBlank before = true ∧ allBlank after = true ∧
      cs = before ++ trim cs ++ after := by
  obtain ⟨after, hafter, heq⟩ := exists_eq_dropEndWhile_append isBlank (trimStart cs)
  refine ⟨cs.takeWhile isBlank, after, List.all_eq_true.mpr fun c hc => ?_,
    List.all_eq_true.mpr hafter, ?_⟩
  · exact List.mem_takeWhile_imp hc
  · rw [List.append_assoc, trim, trimEnd, ← heq, trimStart, List.takeWhile_append_dropWhile]

/-- White space in front makes no difference to trimming. -/
theorem trim_append_left {before : List Char} (hbefore : allBlank before = true)
    (cs : List Char) : trim (before ++ cs) = trim cs := by
  rw [trim, trimStart_append hbefore, ← trim]

/-- Nor does white space at the end. -/
theorem trim_append_right {after : List Char} (hafter : allBlank after = true) (cs : List Char) :
    trim (cs ++ after) = trim cs := by
  obtain ⟨front, back, hfront, hback, heq⟩ := exists_eq_append_trim cs
  have hblank : allBlank (back ++ after) = true := by
    rw [allBlank, List.all_append]
    exact Bool.and_eq_true_iff.mpr ⟨hback, hafter⟩
  rw [heq, List.append_assoc, trim_append hfront (isBare_trim cs) hblank,
    trim_append hfront (isBare_trim cs) hback]

/-- A mark that is no white space stands in a text only if it is left after trimming. -/
theorem notMem_of_notMem_trim {mark : Char} (hmark : isBlank mark = false) (h : mark ∉ trim cs) :
    mark ∉ cs := by
  obtain ⟨before, after, hbefore, hafter, heq⟩ := exists_eq_append_trim cs
  rw [heq, List.mem_append, List.mem_append, not_or, not_or]
  exact ⟨⟨notMem_of_allBlank hbefore hmark, h⟩, notMem_of_allBlank hafter hmark⟩

/-- A first character that is no white space stays the first one. -/
theorem head?_trim {c : Char} (hhead : cs.head? = some c) (hblank : isBlank c = false) :
    (trim cs).head? = some c := by
  obtain ⟨before, after, hbefore, hafter, heq⟩ := exists_eq_append_trim cs
  rw [heq, List.head?_append, List.head?_append, Option.or_eq_some_iff,
    Option.or_eq_some_iff] at hhead
  rcases hhead with (h | ⟨-, h⟩) | ⟨-, h⟩
  · exact absurd (List.mem_of_head? h) (notMem_of_allBlank hbefore hblank)
  · exact h
  · exact absurd (List.mem_of_head? h) (notMem_of_allBlank hafter hblank)

/-- A last character that is no white space stays the last one. -/
theorem getLast?_trim {c : Char} (hlast : cs.getLast? = some c) (hblank : isBlank c = false) :
    (trim cs).getLast? = some c := by
  obtain ⟨before, after, hbefore, hafter, heq⟩ := exists_eq_append_trim cs
  rw [heq, List.getLast?_append, List.getLast?_append, Option.or_eq_some_iff,
    Option.or_eq_some_iff] at hlast
  rcases hlast with h | ⟨-, h | ⟨-, h⟩⟩
  · exact absurd (List.mem_of_getLast? h) (notMem_of_allBlank hafter hblank)
  · exact h
  · exact absurd (List.mem_of_getLast? h) (notMem_of_allBlank hbefore hblank)

/-! ## Parts -/

/-- Cutting at the characters that satisfy a test is the library's function. -/
theorem splitWhere_eq_splitOnP (p : Char → Bool) (cs : List Char) :
    splitWhere p cs = cs.splitOnP p := by
  induction cs with
  | nil => rfl
  | cons c cs ih =>
    rw [splitWhere, ih, List.splitOnP_cons_eq_if_modifyHead]
    split
    · rfl
    · cases h : cs.splitOnP p with
      | nil => exact absurd h (List.splitOnP_ne_nil p cs)
      | cons part parts => rfl

/-- Cutting at a character is the library's function. -/
theorem splitOn_eq (sep : Char) (cs : List Char) : splitOn sep cs = cs.splitOn sep := by
  rw [splitOn, splitWhere_eq_splitOnP, List.splitOn_eq_splitOnP]

/-- A text has a part, perhaps an empty one. -/
theorem splitOn_ne_nil (sep : Char) (cs : List Char) : splitOn sep cs ≠ [] := by
  rw [splitOn_eq]
  exact List.splitOn_ne_nil sep cs

/-- The parts before a separator come before those behind it. -/
theorem splitOn_append_cons (sep : Char) (before after : List Char) :
    splitOn sep (before ++ sep :: after) = splitOn sep before ++ splitOn sep after := by
  simp only [splitOn_eq]
  exact List.splitOn_append_cons_self before after

/-- White space stands between words. -/
theorem words_append_cons {c : Char} (h : isBlank c = true) (before after : List Char) :
    words (before ++ c :: after) = words before ++ words after := by
  simp only [words, splitWhere_eq_splitOnP, List.splitOnP_append_cons before after h,
    List.filter_append]

/-- A text without white space is one word. -/
theorem words_eq_singleton (hne : cs ≠ []) (h : ∀ c ∈ cs, isBlank c = false) : words cs = [cs] := by
  have hnone : words [] = [] := rfl
  have hwords : words (cs ++ []) = cs :: words [] := words_append hne h (by simp)
  rwa [hnone, List.append_nil] at hwords

/-- The separator stands in no part. -/
theorem notMem_of_mem_splitOn {sep : Char} {part : List Char} (h : part ∈ splitOn sep cs) :
    sep ∉ part := by
  induction cs generalizing part with
  | nil => simp_all [splitOn, splitWhere]
  | cons c cs ih =>
    obtain ⟨first, parts, hparts⟩ := List.exists_cons_of_ne_nil (splitOn_ne_nil sep cs)
    rw [splitOn, splitWhere, ← splitOn] at h
    split at h
    · rcases List.mem_cons.mp h with rfl | h
      · exact List.not_mem_nil
      · exact ih h
    next hc =>
      rw [hparts] at h
      -- The character goes to the first part, and the others are parts of the rest.
      rcases List.mem_cons.mp h with rfl | h
      · have hfirst : sep ∉ first := ih (by rw [hparts]; exact List.mem_cons_self)
        rw [List.mem_cons, not_or]
        exact ⟨fun h => hc (beq_iff_eq.mpr h.symm), hfirst⟩
      · exact ih (by rw [hparts]; exact List.mem_cons_of_mem _ h)

/-- What holds no separator goes to the last part of the text in front of it. -/
theorem exists_splitOn_append {sep : Char} {back : List Char} (hback : sep ∉ back)
    (cs : List Char) :
    ∃ init last, splitOn sep cs = init ++ [last] ∧
      splitOn sep (cs ++ back) = init ++ [last ++ back] := by
  induction cs with
  | nil =>
    have hnone : ∀ c ∈ back, (c == sep) = false := fun c hc =>
      beq_eq_false_iff_ne.mpr fun heq => hback (heq ▸ hc)
    have hsplit : splitOn sep (back ++ []) = [back ++ []] := splitWhere_append hnone rfl
    rw [List.append_nil] at hsplit
    exact ⟨[], [], rfl, by simpa using hsplit⟩
  | cons c cs ih =>
    obtain ⟨init, last, hcs, hcsBack⟩ := ih
    by_cases hc : c = sep
    · subst hc
      have hcons (ds : List Char) : splitOn c (c :: ds) = [] :: splitOn c ds :=
        splitOn_append_cons c [] ds
      exact ⟨[] :: init, last, by rw [hcons, hcs, List.cons_append],
        by rw [List.cons_append, hcons, hcsBack, List.cons_append]⟩
    · -- The character goes to the first part, which may be the last one.
      have hcons (ds : List Char) {part : List Char} {parts : List (List Char)}
          (hds : splitOn sep ds = part :: parts) :
          splitOn sep ([c] ++ ds) = ([c] ++ part) :: parts :=
        splitWhere_append (by simpa using hc) hds
      cases init with
      | nil => exact ⟨[], c :: last, hcons cs hcs, hcons (cs ++ back) hcsBack⟩
      | cons part init =>
        exact ⟨(c :: part) :: init, last, hcons cs hcs, hcons (cs ++ back) hcsBack⟩

/-- White space around a text makes no difference to its parts once they are trimmed. -/
theorem map_trim_splitOn_trim {sep : Char} (hsep : isBlank sep = false) (cs : List Char) :
    (splitOn sep (trim cs)).map trim = (splitOn sep cs).map trim := by
  obtain ⟨before, after, hbefore, hafter, heq⟩ := exists_eq_append_trim cs
  -- The white space in front goes to the first part, and that at the end to the last one.
  have hfront : (splitOn sep (before ++ trim cs)).map trim = (splitOn sep (trim cs)).map trim := by
    have hnone : ∀ c ∈ before, (c == sep) = false := fun c hc => beq_eq_false_iff_ne.mpr
      fun heq => notMem_of_allBlank hbefore hsep (heq ▸ hc)
    obtain ⟨part, parts, hparts⟩ := List.exists_cons_of_ne_nil (splitOn_ne_nil sep (trim cs))
    rw [splitOn, splitWhere_append hnone hparts, hparts, List.map_cons, List.map_cons,
      trim_append_left hbefore]
  obtain ⟨init, last, hinit, hlast⟩ :=
    exists_splitOn_append (notMem_of_allBlank hafter hsep) (before ++ trim cs)
  calc (splitOn sep (trim cs)).map trim = (splitOn sep (before ++ trim cs)).map trim := hfront.symm
    _ = (splitOn sep (before ++ trim cs ++ after)).map trim := by
      rw [hinit, hlast]
      simp only [List.map_append, List.map_singleton, trim_append_right hafter]
    _ = (splitOn sep cs).map trim := by rw [← heq]

/-- Two sequences of parts that are joined are joined with a separator between them. -/
theorem intercalate_append {parts others : List (List Char)} (sep : List Char) (hparts : parts ≠ [])
    (hothers : others ≠ []) :
    sep.intercalate (parts ++ others) = sep.intercalate parts ++ sep ++ sep.intercalate others := by
  induction parts with
  | nil => exact absurd rfl hparts
  | cons part parts ih =>
    cases parts with
    | nil =>
      rw [List.singleton_append, List.intercalate_cons_of_ne_nil hothers,
        List.intercalate_singleton]
    | cons next parts =>
      rw [List.cons_append, List.intercalate_cons_of_ne_nil (by simp), ih (List.cons_ne_nil _ _),
        List.intercalate_cons_cons]
      simp only [List.append_assoc]

/-- The end of a separator may be put in front of each text instead. -/
theorem cons_intercalate_concat {texts : List (List Char)} (sep : List Char) (c : Char)
    (hne : texts ≠ []) :
    c :: (sep ++ [c]).intercalate texts = sep.intercalate (texts.map (c :: ·)) := by
  induction texts with
  | nil => exact absurd rfl hne
  | cons text texts ih =>
    cases texts with
    | nil => simp
    | cons next texts =>
      rw [List.map_cons, List.map_cons, List.intercalate_cons_cons, List.intercalate_cons_cons,
        ← List.map_cons, ← ih (List.cons_ne_nil _ _)]
      simp

/-- Texts that are joined with a separator are cut into the parts of each. -/
theorem splitOn_intercalate_eq_flatMap (sep : Char) {texts : List (List Char)} (hne : texts ≠ []) :
    splitOn sep ([sep].intercalate texts) = texts.flatMap (splitOn sep) := by
  induction texts with
  | nil => exact absurd rfl hne
  | cons text texts ih =>
    cases texts with
    | nil => simp
    | cons next texts =>
      rw [List.intercalate_cons_cons, List.append_assoc, List.singleton_append,
        splitOn_append_cons, ih (List.cons_ne_nil _ _)]
      rfl

/-- Texts that are joined with white space hold the words of each. -/
theorem words_intercalate {c : Char} (h : isBlank c = true) (texts : List (List Char)) :
    words ([c].intercalate texts) = texts.flatMap words := by
  induction texts with
  | nil => rfl
  | cons text texts ih =>
    cases texts with
    | nil => simp
    | cons next texts =>
      rw [List.intercalate_cons_cons, List.append_assoc, List.singleton_append,
        words_append_cons h, ih]
      rfl

/-- A mark that stands neither in texts nor in a separator does not stand in the joined text. -/
theorem notMem_intercalate {sep : List Char} {texts : List (List Char)} {mark : Char}
    (hsep : mark ∉ sep) (h : ∀ text ∈ texts, mark ∉ text) : mark ∉ sep.intercalate texts := by
  induction texts with
  | nil => exact List.not_mem_nil
  | cons text texts ih =>
    rw [List.forall_mem_cons] at h
    cases texts with
    | nil => simpa using h.1
    | cons next texts =>
      rw [List.intercalate_cons_cons, List.mem_append, List.mem_append, not_or, not_or]
      exact ⟨⟨h.1, hsep⟩, ih h.2⟩

/-- Bare texts that are joined make up a bare text. -/
theorem isBare_intercalate {texts : List (List Char)} (sep : List Char) (hne : texts ≠ [])
    (h : ∀ text ∈ texts, text ≠ [] ∧ IsBare text) :
    sep.intercalate texts ≠ [] ∧ IsBare (sep.intercalate texts) := by
  induction texts with
  | nil => exact absurd rfl hne
  | cons text texts ih =>
    obtain ⟨htextNe, htext⟩ := h text List.mem_cons_self
    cases texts with
    | nil =>
      rw [List.intercalate_singleton]
      exact ⟨htextNe, htext⟩
    | cons next texts =>
      obtain ⟨hrestNe, hrest⟩ := ih (List.cons_ne_nil _ _) fun other hother =>
        h other (List.mem_cons_of_mem _ hother)
      rw [List.intercalate_cons_cons]
      refine ⟨by simp [htextNe], fun c hc => htext.head c ?_, fun c hc => hrest.last c ?_⟩
      · obtain ⟨first, others, rfl⟩ := List.exists_cons_of_ne_nil htextNe
        exact hc
      · have hlast := List.getLast?_eq_some_getLast hrestNe
        rwa [List.getLast?_append, hlast, Option.some_or, ← hlast] at hc

/-! ## Lines -/

/-- The lines of a text once the last one is ended. -/
def endedLines (cs : List Char) : List (List Char) :=
  splitOn '\n' cs ++ if cs.getLast? = some '\n' then [] else [[]]

/-- Lines joined with line feeds are found again. -/
theorem splitOn_intercalate_lineFeed {lines : List (List Char)} (hne : lines ≠ [])
    (h : ∀ line ∈ lines, '\n' ∉ line) : splitOn '\n' (['\n'].intercalate lines) = lines := by
  rw [splitOn_eq]
  exact List.splitOn_intercalate '\n' h hne

/-- Behind some lines comes an empty one. -/
theorem exists_endedLines (cs : List Char) :
    ∃ lines, lines ≠ [] ∧ endedLines cs = lines ++ [[]] := by
  by_cases h : cs.getLast? = some '\n'
  · -- The line feed at the end leaves an empty part behind it.
    obtain ⟨init, rfl⟩ := List.getLast?_eq_some_iff.mp h
    refine ⟨splitOn '\n' init, splitOn_ne_nil _ _, ?_⟩
    rw [endedLines, if_pos h, splitOn_append_cons, List.append_nil]
    rfl
  · exact ⟨splitOn '\n' cs, splitOn_ne_nil _ _, by rw [endedLines, if_neg h]⟩

/-- There is a line feed in no line. -/
theorem lineFeed_notMem_of_mem_endedLines {line : List Char} (h : line ∈ endedLines cs) :
    '\n' ∉ line := by
  rw [endedLines, List.mem_append] at h
  rcases h with h | h
  · exact notMem_of_mem_splitOn h
  · split at h <;> simp_all

/-- The ended lines are what a text is cut into whose last line is ended. -/
theorem endedLines_of_getLast? (h : cs.getLast? = some '\n') :
    endedLines cs = splitOn '\n' cs := by
  rw [endedLines, if_pos h, List.append_nil]

end SyntaxBridge.Text
