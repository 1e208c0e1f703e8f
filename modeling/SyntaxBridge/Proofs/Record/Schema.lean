import SyntaxBridge.Proofs.Outcome
import SyntaxBridge.Proofs.Record.Layout

/-!
# Reading schemas

A schema is read from the left, one part after the other, and what is read is what was written
(`parse_eq_ok_iff`). Each reader takes a longest text that it can use: it gives back what was
written in front of a rest that cannot be taken for more of it, and whatever it gives back was
written in front of such a rest. Fields end where no word starts. If that is not at the end of the
schema, no reading of the whole exists, for a schema that declares fields is blank behind them.
-/

namespace SyntaxBridge.Record

open Outcome Text

namespace Schema

variable {cs rest text word : List Char} {type : FieldType} {words : List String}

/-! ## Words -/

/-- A word is read up to where it ends. -/
theorem readWord_append (hword : ∀ c ∈ word, isWordChar c = true) (hrest : EndsWord rest) :
    readWord (word ++ rest) = (String.ofList word, rest) := by
  have htake : rest.takeWhile isWordChar = [] := by
    cases rest with
    | nil => rfl
    | cons c rest => simp [hrest c rfl]
  have hdrop : rest.dropWhile isWordChar = rest := by
    cases rest with
    | nil => rfl
    | cons c rest => simp [hrest c rfl]
  rw [readWord, List.takeWhile_append_of_pos hword, List.dropWhile_append_of_pos hword, htake,
    hdrop, List.append_nil]

/-- A text starts with a word, which may be empty, up to where it ends. -/
theorem exists_readWord (cs : List Char) :
    ∃ word rest, cs = word ++ rest ∧ (∀ c ∈ word, isWordChar c = true) ∧ EndsWord rest := by
  refine ⟨cs.takeWhile isWordChar, cs.dropWhile isWordChar,
    List.takeWhile_append_dropWhile.symm, fun c hc => List.mem_takeWhile_imp hc, ?_⟩
  intro c hc
  have hnot := List.head?_dropWhile_not isWordChar cs
  rw [Option.mem_def] at hc
  rw [hc] at hnot
  simpa using hnot

/-- No word is read where none starts. -/
theorem isEmpty_readWord_iff : (readWord cs).1.isEmpty = true ↔ EndsWord cs := by
  cases cs with
  | nil => simp [readWord, EndsWord]
  | cons c cs => cases hc : isWordChar c <;> simp [readWord, EndsWord, hc]

/-- A mark is read where it stands. -/
theorem readMark_eq_ok_iff {mark : Char} : readMark mark cs = .ok rest ↔ cs = mark :: rest := by
  cases cs with
  | nil => simp [readMark, fault]
  | cons c cs =>
    rw [readMark]
    split
    next h => simp [h]
    next h => simp [fault, h]

/-! ## Types -/

/-- A type is read up to where its word ends. -/
theorem readType_append (h : WritesType type text) (hrest : EndsWord rest) :
    readType (text ++ rest) = .ok (some type, rest) := by
  induction h with
  | @named word hword =>
    obtain ⟨c, others, rfl, hc, -⟩ := hword.exists_cons
    have hread := readWord_append hword.chars hrest
    have hbracket : c ≠ '[' := by
      rintro rfl
      exact absurd hc (by decide)
    rw [List.cons_append] at hread ⊢
    rw [readType.eq_2 _ fun _ heq => hbracket (List.cons.inj heq).1, hread]
    simp [pure, Except.pure]
  | list _ ih =>
    rw [List.cons_append, List.cons_append, readType, ih]
    rfl

/-- Whatever type is read was written, and its word ends there. -/
theorem exists_writesType_of_readType (h : readType cs = .ok (some type, rest)) :
    ∃ text, cs = text ++ rest ∧ WritesType type text ∧ EndsWord rest := by
  induction type generalizing cs with
  | named name =>
    unfold readType at h
    split at h
    · obtain ⟨⟨element?, behind⟩, -, h⟩ := bind_eq_ok_iff.mp h
      cases element? <;> cases h
    · obtain ⟨word, behind, rfl, hword, hbehind⟩ := exists_readWord cs
      rw [readWord_append hword hbehind] at h
      dsimp only at h
      split_ifs at h with hempty <;> cases h
      refine ⟨word, rfl, .named ⟨?_, hword⟩, hbehind⟩
      rintro rfl
      exact hempty rfl
  | list element ih =>
    unfold readType at h
    split at h
    next behind =>
      obtain ⟨⟨element?, behind⟩, hread, h⟩ := bind_eq_ok_iff.mp h
      cases element? with
      | none => cases h
      | some element =>
        cases h
        obtain ⟨text, rfl, hwrites, hrest⟩ := ih hread
        exact ⟨_, rfl, .list hwrites, hrest⟩
    · dsimp only at h
      split_ifs at h <;> cases h

/-! ## Attributes -/

/-- The words behind a comma: one that must be there, and those that follow it. -/
theorem readMoreAttributes_of_comma {afterComma : List Char}
    (h : trimStart cs = ',' :: afterComma) :
    readMoreAttributes cs =
      if (readWord (trimStart afterComma)).1.isEmpty then
        fault .missingAttribute (trimStart afterComma)
      else do
        let (words, rest) ← readMoreAttributes (readWord (trimStart afterComma)).2
        return ((readWord (trimStart afterComma)).1 :: words, rest) := by
  rw [readMoreAttributes]
  split
  next heq =>
    rw [h] at heq
    cases heq
    rfl
  next hne => exact absurd h (hne _)

/-- No words follow where there is no comma. -/
theorem readMoreAttributes_of_no_comma (h : ∀ afterComma, trimStart cs ≠ ',' :: afterComma) :
    readMoreAttributes cs = .ok ([], trimStart cs) := by
  rw [readMoreAttributes]
  split
  next heq => exact absurd heq (h _)
  next => rfl

/-- Words behind commas are read up to the bracket behind them. -/
theorem readMoreAttributes_append (h : WritesMoreWords words text) (rest : List Char) :
    readMoreAttributes (text ++ ']' :: rest) = .ok (words, ']' :: rest) := by
  induction h with
  | nil hafter =>
    have htrim := trimStart_append_cons hafter (c := ']') (by decide) rest
    rw [readMoreAttributes_of_no_comma (by simp [htrim]), htrim]
  | @cons before between word text words hbefore hbetween hword htext ih =>
    have hends := htext.endsWord rest
    have hcomma : trimStart (before ++ ',' :: (between ++ (word ++ text)) ++ ']' :: rest) =
        ',' :: (between ++ (word ++ (text ++ ']' :: rest))) := by
      rw [List.append_assoc, List.cons_append, trimStart_append_cons hbefore (by decide)]
      simp only [List.append_assoc]
    rw [readMoreAttributes_of_comma hcomma, trimStart_append_word hbetween hword,
      readWord_append hword.chars hends, ih, if_neg (by simpa using hword.ne_nil)]
    rfl

/-- Whatever words are read behind commas were written. -/
theorem exists_writesMoreWords_of_readMoreAttributes
    (h : readMoreAttributes cs = .ok (words, rest)) :
    ∃ text, cs = text ++ rest ∧ WritesMoreWords words text ∧ trimStart rest = rest := by
  induction words generalizing cs with
  | nil =>
    by_cases hcomma : ∃ afterComma, trimStart cs = ',' :: afterComma
    · obtain ⟨afterComma, hcomma⟩ := hcomma
      rw [readMoreAttributes_of_comma hcomma] at h
      split_ifs at h
      · cases h
      · obtain ⟨_, _, h⟩ := bind_eq_ok_iff.mp h
        cases h
    · rw [readMoreAttributes_of_no_comma fun afterComma heq => hcomma ⟨afterComma, heq⟩] at h
      cases h
      obtain ⟨before, hbefore, hcs⟩ := exists_trimStart cs
      exact ⟨before, hcs, .nil hbefore, trimStart_trimStart cs⟩
  | cons first words ih =>
    by_cases hcomma : ∃ afterComma, trimStart cs = ',' :: afterComma
    · obtain ⟨afterComma, hcomma⟩ := hcomma
      rw [readMoreAttributes_of_comma hcomma] at h
      obtain ⟨before, hbefore, hcs⟩ := exists_trimStart cs
      obtain ⟨between, hbetween, hafter⟩ := exists_trimStart afterComma
      obtain ⟨word, behind, hword, hchars, hbehind⟩ := exists_readWord (trimStart afterComma)
      rw [hword, readWord_append hchars hbehind] at h
      split_ifs at h with hempty
      · cases h
      obtain ⟨⟨others, rest'⟩, hread, h⟩ := bind_eq_ok_iff.mp h
      cases h
      obtain ⟨text, rfl, htext, hrest⟩ := ih hread
      refine ⟨before ++ ',' :: (between ++ (word ++ text)), ?_,
        .cons hbefore hbetween ⟨by simpa using hempty, hchars⟩ htext, hrest⟩
      rw [hcs, hcomma, hafter, hword]
      simp only [List.append_assoc, List.cons_append]
    · rw [readMoreAttributes_of_no_comma fun afterComma heq => hcomma ⟨afterComma, heq⟩] at h
      cases h

/-- Attributes in brackets are read. -/
theorem readAttributes_append {before : List Char} (hbefore : allBlank before = true)
    (h : WritesWords words text) (rest : List Char) :
    readAttributes ('@' :: (before ++ '[' :: (text ++ ']' :: rest))) = .ok (words, rest) := by
  have hopen := trimStart_append_cons hbefore (c := '[') (by decide) (text ++ ']' :: rest)
  have hclose : readMark ']' (trimStart (']' :: rest)) = .ok rest := readMark_eq_ok_iff.mpr rfl
  refine bind_eq_ok_iff.mpr ⟨_, readMark_eq_ok_iff.mpr hopen, ?_⟩
  cases h with
  | nil hblank =>
    -- The bracket is no word.
    rw [trimStart_append_cons hblank (by decide)]
    exact bind_eq_ok_iff.mpr ⟨_, rfl, bind_eq_ok_iff.mpr ⟨rest, hclose, rfl⟩⟩
  | @cons before word text words hbefore hword htext =>
    have hne : ¬ (String.ofList word).isEmpty = true := by simpa using hword.ne_nil
    rw [List.append_assoc, List.append_assoc, trimStart_append_word hbefore hword]
    dsimp only
    rw [readWord_append hword.chars (htext.endsWord rest), if_neg hne,
      readMoreAttributes_append htext]
    exact bind_eq_ok_iff.mpr
      ⟨_, rfl, bind_eq_ok_iff.mpr ⟨_, rfl, bind_eq_ok_iff.mpr ⟨rest, hclose, rfl⟩⟩⟩

/-- Whatever attributes are read were written in brackets. -/
theorem exists_writesWords_of_readAttributes (h : readAttributes ('@' :: cs) = .ok (words, rest)) :
    ∃ before text, allBlank before = true ∧ cs = before ++ '[' :: (text ++ ']' :: rest) ∧
      WritesWords words text := by
  obtain ⟨inside, hopen, h⟩ := bind_eq_ok_iff.mp h
  rw [readMark_eq_ok_iff] at hopen
  obtain ⟨before, hbefore, hcs⟩ := exists_trimStart cs
  obtain ⟨blank, hblank, hinside⟩ := exists_trimStart inside
  obtain ⟨word, behind, hword, hchars, hbehind⟩ := exists_readWord (trimStart inside)
  -- What stands between the brackets is all that is left to be found.
  suffices ∃ text, inside = text ++ ']' :: rest ∧ WritesWords words text by
    obtain ⟨text, rfl, htext⟩ := this
    exact ⟨before, text, hbefore, by rw [hcs, hopen], htext⟩
  dsimp only at h
  rw [hword, readWord_append hchars hbehind] at h
  split_ifs at h with hempty
  · rw [pure_bind] at h
    obtain ⟨after, hclose, h⟩ := bind_eq_ok_iff.mp h
    cases h
    obtain rfl : word = [] := by simpa using hempty
    rw [readMark_eq_ok_iff, ← hword, trimStart_trimStart] at hclose
    exact ⟨blank, by rw [hinside, hclose], .nil hblank⟩
  · obtain ⟨⟨others, after⟩, hread, h⟩ := bind_eq_ok_iff.mp h
    rw [pure_bind] at h
    obtain ⟨_, hclose, h⟩ := bind_eq_ok_iff.mp h
    cases h
    obtain ⟨text, rfl, htext, hafter⟩ := exists_writesMoreWords_of_readMoreAttributes hread
    rw [readMark_eq_ok_iff, hafter] at hclose
    subst hclose
    refine ⟨blank ++ (word ++ text), ?_, .cons hblank ⟨by simpa using hempty, hchars⟩ htext⟩
    rw [hinside, hword]
    simp only [List.append_assoc]

/-! ## Fields -/

variable {field : Field} {fields : List Field} {endsInWord : Bool}

/-- A field is read if its parts are, one after the other. -/
theorem readField_eq_ok_some_iff :
    readField cs = .ok (some field, rest) ↔
      field.name = (readWord cs).1 ∧ ¬ EndsWord cs ∧
      ∃ afterColon afterType, trimStart (readWord cs).2 = ':' :: afterColon ∧
        readType (trimStart afterColon) = .ok (some field.type, afterType) ∧
        readAttributes (trimStart afterType) = .ok (field.attributes, rest) := by
  rw [← isEmpty_readWord_iff]
  unfold readField
  dsimp only
  constructor
  · intro h
    split_ifs at h with hempty
    · cases h
    obtain ⟨afterColon, hcolon, h⟩ := bind_eq_ok_iff.mp h
    obtain ⟨⟨type?, afterType⟩, htype, h⟩ := bind_eq_ok_iff.mp h
    cases type? with
    | none => cases h
    | some type =>
      obtain ⟨⟨attributes, after⟩, hattributes, h⟩ := bind_eq_ok_iff.mp h
      cases h
      exact ⟨rfl, hempty, afterColon, afterType, readMark_eq_ok_iff.mp hcolon, htype, hattributes⟩
  · rintro ⟨hname, hempty, afterColon, afterType, hcolon, htype, hattributes⟩
    rw [if_neg hempty, ← hname]
    refine bind_eq_ok_iff.mpr ⟨_, readMark_eq_ok_iff.mpr hcolon, ?_⟩
    refine bind_eq_ok_iff.mpr ⟨_, htype, ?_⟩
    exact bind_eq_ok_iff.mpr ⟨_, hattributes, rfl⟩

/-- No attributes are read where none are written. -/
theorem readAttributes_of_no_mark (h : ∀ c ∈ cs.head?, c ≠ '@') :
    readAttributes cs = .ok ([], cs) := by
  unfold readAttributes
  split
  next => exact absurd rfl (h _ rfl)
  next => rfl

/-- Where no field is read, nothing is taken. -/
theorem eq_of_readField_none (h : readField cs = .ok (none, rest)) : rest = cs := by
  unfold readField at h
  dsimp only at h
  split_ifs at h
  · cases h
    rfl
  · obtain ⟨_, _, h⟩ := bind_eq_ok_iff.mp h
    obtain ⟨⟨type?, _⟩, _, h⟩ := bind_eq_ok_iff.mp h
    cases type? with
    | none => cases h
    | some type =>
      obtain ⟨_, _, h⟩ := bind_eq_ok_iff.mp h
      cases h

/-- All fields start with a name, a colon and a type, and are read as far as their attributes. -/
theorem readField_of_readAttributes {name beforeColon beforeType typeText behind : List Char}
    {attributes : List String} (hname : IsWord name) (hcolon : allBlank beforeColon = true)
    (hbefore : allBlank beforeType = true) (htype : WritesType type typeText)
    (hbehind : EndsWord behind)
    (hattributes : readAttributes (trimStart behind) = .ok (attributes, rest)) :
    readField (name ++ (beforeColon ++ ':' :: (beforeType ++ (typeText ++ behind)))) =
      .ok (some ⟨String.ofList name, type, attributes⟩, rest) := by
  have hends := endsWord_append_cons hcolon (c := ':') (by decide)
    (beforeType ++ (typeText ++ behind))
  rw [readField_eq_ok_some_iff, readWord_append hname.chars hends]
  refine ⟨rfl, ?_, _, behind, trimStart_append_cons hcolon (by decide) _, ?_, hattributes⟩
  · obtain ⟨c, others, rfl, hc, -⟩ := hname.exists_cons
    intro hends
    rw [hends c rfl] at hc
    cases hc
  · obtain ⟨c, others, rfl, hc⟩ := htype.exists_cons
    rw [List.cons_append, trimStart_append_cons hbefore hc, ← List.cons_append]
    exact readType_append htype hbehind

/-- A field is read, perhaps together with white space behind it, in which the search for its
attributes ends. -/
theorem exists_readField_append (h : WritesField field endsInWord text)
    (hblank : endsInWord = true → ∀ c ∈ rest.head?, isBlank c = true)
    (hmark : ∀ c ∈ (trimStart rest).head?, c ≠ '@') :
    ∃ after, readField (text ++ rest) = .ok (some field, after) ∧
      trimStart after = trimStart rest := by
  cases h with
  | plain hname hcolon hbefore htype =>
    refine ⟨trimStart rest, ?_, trimStart_trimStart rest⟩
    have hread := readField_of_readAttributes hname hcolon hbefore htype
      (endsWord_of_isBlank (hblank rfl)) (readAttributes_of_no_mark hmark)
    simpa only [List.append_assoc, List.cons_append] using hread
  | @attributed name beforeColon beforeType typeText beforeAt beforeOpen wordsText type words
      hname hcolon hbefore htype hat hopen hwords =>
    refine ⟨rest, ?_, rfl⟩
    let behind := '@' :: (beforeOpen ++ '[' :: (wordsText ++ ']' :: rest))
    have hattributes : readAttributes (trimStart (beforeAt ++ behind)) = .ok (words, rest) := by
      rw [trimStart_append_cons hat (by decide)]
      exact readAttributes_append hopen hwords rest
    have hread := readField_of_readAttributes hname hcolon hbefore htype
      (endsWord_append_cons hat (by decide) _) hattributes
    simpa only [List.append_assoc, List.cons_append, List.nil_append] using hread

/-- Whatever field is read was written. What is left unread is less than the text, and differs from
what stands behind the field by white space only. -/
theorem exists_writesField_of_readField (h : readField cs = .ok (some field, rest)) :
    ∃ text behind endsInWord, cs = text ++ behind ∧ WritesField field endsInWord text ∧
      (endsInWord = true → EndsWord behind) ∧ trimStart rest = trimStart behind ∧
      rest.length ≤ behind.length := by
  obtain ⟨hfield, hstart, afterColon, afterType, hcolon, htype, hattributes⟩ :=
    readField_eq_ok_some_iff.mp h
  obtain ⟨name, afterName, rfl, hchars, hends⟩ := exists_readWord cs
  obtain ⟨beforeColon, hbeforeColon, hafterName⟩ := exists_trimStart afterName
  obtain ⟨beforeType, hbeforeType, hafterColon⟩ := exists_trimStart afterColon
  obtain ⟨typeText, htypeText, hwritesType, hendsType⟩ := exists_writesType_of_readType htype
  rw [readWord_append hchars hends] at hfield hcolon
  have hname : IsWord name := by
    refine ⟨?_, hchars⟩
    rintro rfl
    exact hstart hends
  have hcs : name ++ afterName =
      name ++ (beforeColon ++ ':' :: (beforeType ++ (typeText ++ afterType))) := by
    rw [hafterName, hcolon, hafterColon, htypeText]
  obtain ⟨fieldName, type, attributes⟩ := field
  subst hfield
  by_cases hmark : ∃ inside, trimStart afterType = '@' :: inside
  · obtain ⟨inside, hmark⟩ := hmark
    obtain ⟨beforeAt, hbeforeAt, hafterType⟩ := exists_trimStart afterType
    rw [hmark] at hattributes
    obtain ⟨beforeOpen, wordsText, hopen, rfl, hwords⟩ :=
      exists_writesWords_of_readAttributes hattributes
    refine ⟨_, rest, false, ?_,
      .attributed hname hbeforeColon hbeforeType hwritesType hbeforeAt hopen hwords, by simp, rfl,
      le_rfl⟩
    rw [hcs, hafterType, hmark]
    simp only [List.append_assoc, List.cons_append, List.nil_append]
  · rw [readAttributes_of_no_mark] at hattributes
    · cases hattributes
      refine ⟨_, afterType, true, ?_, .plain hname hbeforeColon hbeforeType hwritesType,
        fun _ => hendsType, trimStart_trimStart _, trimStart_length_le _⟩
      rw [hcs]
      simp only [List.append_assoc, List.cons_append]
    · rintro c hc rfl
      obtain ⟨inside, hinside⟩ := List.head?_eq_some_iff.mp hc
      exact hmark ⟨inside, hinside⟩

/-! ## Schemas -/

/-- Reading a field takes some characters. -/
theorem length_lt_of_readField (h : readField cs = .ok (some field, rest)) :
    rest.length < cs.length := by
  obtain ⟨text, behind, endsInWord, rfl, hfield, -, -, hlength⟩ :=
    exists_writesField_of_readField h
  obtain ⟨name, others, hname, rfl⟩ := hfield.exists_append
  have hpos := List.length_pos_iff.mpr hname.ne_nil
  simp only [List.length_append]
  omega

/-- Fields are read one after the other, until nothing but white space is left. -/
theorem readFields_eq_ok_iff {afterOptional : Bool} :
    readFields afterOptional cs = .ok fields ↔
      (fields = [] ∧ allBlank cs = true) ∨
      ∃ field others rest, fields = field :: others ∧
        readField (trimStart cs) = .ok (some field, rest) ∧
        (afterOptional = true → field.isOptional = true) ∧
        readFields (afterOptional || field.isOptional) rest = .ok others := by
  constructor
  · intro h
    rw [readFields] at h
    split at h
    next => cases h
    next hread =>
      cases h
      exact .inl ⟨rfl, trimStart_eq_nil_iff.mp (eq_of_readField_none hread).symm⟩
    next => cases h
    next field rest hread =>
      split_ifs at h with hoptional hlength
      · cases h
      · cases hothers : readFields (afterOptional || field.isOptional) rest with
        | error e =>
          rw [hothers] at h
          cases h
        | ok others =>
          rw [hothers] at h
          cases h
          refine .inr ⟨field, others, rest, rfl, hread, ?_, hothers⟩
          simpa using hoptional
      · -- A field that was read has made the rest shorter.
        exact absurd ((length_lt_of_readField hread).trans_le (trimStart_length_le cs)) hlength
  · rintro (⟨rfl, hblank⟩ | ⟨field, others, rest, rfl, hread, hoptional, hothers⟩)
    · rw [readFields, trimStart_eq_nil_iff.mpr hblank]
      rfl
    · have hlength := (length_lt_of_readField hread).trans_le (trimStart_length_le cs)
      rw [readFields, hread]
      dsimp only
      rw [if_neg (by simpa using hoptional), if_pos hlength, hothers]
      rfl

/-- Only what stands behind white space matters. -/
theorem readFields_trimStart_eq_ok_iff {afterOptional : Bool} :
    readFields afterOptional (trimStart cs) = .ok fields ↔
      readFields afterOptional cs = .ok fields := by
  rw [readFields_eq_ok_iff, readFields_eq_ok_iff, trimStart_trimStart, ← trimStart_eq_nil_iff,
    trimStart_trimStart, trimStart_eq_nil_iff]

/-- The fields that were written are read, if they can be declared. -/
theorem readFields_of_writesFields (h : WritesFields fields text) (hlast : OptionalLast fields)
    {afterOptional : Bool}
    (hafter : afterOptional = true → ∀ field ∈ fields, field.isOptional = true) :
    readFields afterOptional text = .ok fields := by
  induction h generalizing afterOptional with
  | nil hblank => exact readFields_eq_ok_iff.mpr (.inl ⟨rfl, hblank⟩)
  | @cons before text behind field fields endsInWord hbefore hfield hbehind hfields ih =>
    obtain ⟨hfirst, hlast⟩ := List.pairwise_cons.mp hlast
    obtain ⟨after, hread, hrest⟩ := exists_readField_append hfield hbehind hfields.head_trimStart
    obtain ⟨name, others, hname, rfl⟩ := hfield.exists_append
    refine readFields_eq_ok_iff.mpr (.inr ⟨field, fields, after, rfl, ?_, ?_, ?_⟩)
    · rw [List.append_assoc, trimStart_append_word hbefore hname, ← List.append_assoc]
      exact hread
    · exact fun hafterOptional => hafter hafterOptional field List.mem_cons_self
    · rw [← readFields_trimStart_eq_ok_iff, hrest, readFields_trimStart_eq_ok_iff]
      refine ih hlast fun hoptional other hother => ?_
      rcases Bool.or_eq_true_iff.mp hoptional with hoptional | hoptional
      · exact hafter hoptional other (List.mem_cons_of_mem _ hother)
      · exact hfirst other hother hoptional

/-- Whatever fields are read were written, and can be declared. -/
theorem writesFields_of_readFields {afterOptional : Bool}
    (h : readFields afterOptional cs = .ok fields) :
    WritesFields fields cs ∧ OptionalLast fields ∧
      (afterOptional = true → ∀ field ∈ fields, field.isOptional = true) := by
  induction fields generalizing cs afterOptional with
  | nil =>
    rcases readFields_eq_ok_iff.mp h with ⟨-, hblank⟩ | ⟨_, _, _, hcons, _⟩
    · exact ⟨.nil hblank, List.Pairwise.nil, by simp⟩
    · cases hcons
  | cons field fields ih =>
    rcases readFields_eq_ok_iff.mp h with ⟨hnil, -⟩ | ⟨_, _, rest, hcons, hread, hoptional, hothers⟩
    · cases hnil
    cases hcons
    obtain ⟨hfields, hlast, hafter⟩ := ih hothers
    obtain ⟨text, behind, endsInWord, htext, hfield, hends, hrest, -⟩ :=
      exists_writesField_of_readField hread
    obtain ⟨before, hbefore, hcs⟩ := exists_trimStart cs
    have hbehind : WritesFields fields behind := by
      rw [← writesFields_trimStart_iff, ← hrest, writesFields_trimStart_iff]
      exact hfields
    refine ⟨?_, ?_, ?_⟩
    · rw [hcs, htext]
      refine .cons hbefore hfield (fun hword => ?_) hbehind
      exact hbehind.isBlank_head? (hends hword)
    · refine List.pairwise_cons.mpr ⟨fun later hlater hfirst => ?_, hlast⟩
      exact hafter (by simp [hfirst]) later hlater
    · intro hafterOptional other hother
      rcases List.mem_cons.mp hother with rfl | hother
      · exact hoptional hafterOptional
      · exact hafter (by simp [hafterOptional]) other hother

/-- A schema is read as the fields that it declares, if these can be declared. -/
theorem parse_eq_ok_iff {schema : String} :
    parse schema = .ok fields ↔ WritesFields fields schema.toList ∧ OptionalLast fields := by
  have hread : parse schema = .ok fields ↔ readFields false schema.toList = .ok fields := by
    rw [parse]
    cases readFields false schema.toList <;> simp [Except.mapError]
  rw [hread]
  constructor
  · intro h
    obtain ⟨hwrites, hlast, -⟩ := writesFields_of_readFields h
    exact ⟨hwrites, hlast⟩
  · rintro ⟨hwrites, hlast⟩
    exact readFields_of_writesFields hwrites hlast (by simp)

/-- A schema that is refused is refused with an error that tells it. -/
theorem schema_of_parse_eq_error {schema : String} {e : SchemaError}
    (h : parse schema = .error e) : e.schema = schema := by
  rw [parse] at h
  cases hread : readFields false schema.toList with
  | ok fields =>
    rw [hread] at h
    cases h
  | error fault =>
    rw [hread] at h
    cases h
    rfl

/-- Reading a schema gives exactly the fields that it declares. Any text that declares no fields, or
none that can stand in this order, is refused with an error of the schema. -/
theorem parse_readsFields (schema : String) :
    (∀ fields, parse schema = .ok fields ↔
      WritesFields fields schema.toList ∧ OptionalLast fields) ∧
    ((∃ e, parse schema = .error e ∧ e.schema = schema) ↔
      ¬ ∃ fields, WritesFields fields schema.toList ∧ OptionalLast fields) := by
  refine ⟨fun fields => parse_eq_ok_iff, ?_, ?_⟩
  · rintro ⟨e, he, -⟩ ⟨fields, hfields⟩
    cases he.symm.trans (parse_eq_ok_iff.mpr hfields)
  · intro hnone
    cases h : parse schema with
    | ok fields => exact absurd ⟨fields, parse_eq_ok_iff.mp h⟩ hnone
    | error e => exact ⟨e, rfl, schema_of_parse_eq_error h⟩

end Schema

end SyntaxBridge.Record
