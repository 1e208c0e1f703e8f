import Mathlib
import SyntaxBridge.Proofs.Grammar.Ident
import SyntaxBridge.Proofs.Grammar.Shorthand
import SyntaxBridge.Proofs.Grammar.TidyName

/-!
# Categories as they are written

The categories that the rules of a grammar name are what certain texts in its lines are read as, one
by one and in order, perhaps with that of identifiers behind them (`readAs_rulesOfLines`). Such a
text is a word of a token declaration or of a definition, what stands between two commas, or what
stands in front of a definition (`categoryTexts`).

So reading a name in the rules once more gives that name exactly if the name is tidy, and all names
are tidy exactly if all the texts write tidy names (`readsTidyNames`).
-/

namespace SyntaxBridge

open Outcome Text

/-- The categories that a rule names, in order. -/
def Rule.categories : Rule → List String
  | constructor rule => rule.type :: rule.construction
  | token rule => [rule.type]
  | entrypoint rule => rule.types

namespace Parser

variable {line : LineNumber} {rule text : List Char} {rules : List Rule}

/-- The words of a definition without its literals. -/
def definitionWords (definition : List Char) : List (List Char) :=
  ((Literal.erase? definition).map words).getD []

/-- The texts of a shorthand that are read as categories: that in front of the definition, and the
words of the definition. Each alternative repeats the former. -/
def shorthandTexts (text : List Char) : List (List Char) :=
  match cutAt? definitionMark text with
  | none => []
  | some (typeText, definition) =>
    (alternatives definition).flatMap fun alternative => typeText :: definitionWords alternative

/-- The texts of a labelled rule that are read as categories. There are none in a rule that gives no
alternative. -/
def labelledTexts (rule : List Char) : List (List Char) :=
  match cutAt? definitionMark rule with
  | none => []
  | some (head, definition) =>
    match cutAt? ['.'] head with
    | none => []
    | some (labelText, typeText) =>
      if discardedLabels.contains (String.ofList (cleanLabel labelText)) then []
      else typeText :: definitionWords definition

/-- The texts of a declaration that are read as categories, in the order of its rules. -/
def categoryTexts (rule : List Char) : List (List Char) :=
  if ignoredKeywords.contains (keyword rule) then []
  else if keyword rule = "token" then ((words rule).drop 1).take 1
  else if keyword rule = "entrypoints" then entries (rule.drop "entrypoints".length)
  else if keyword rule = "rules" then shorthandTexts (rule.drop "rules".length)
  else labelledTexts rule

/-- The texts of a line that are read as categories. -/
def lineTexts (line : List Char) : List (List Char) :=
  match declaration line with
  | .ok rule => categoryTexts rule
  | .error _ => []

/-! ## One declaration -/

/-- The categories of a definition are what its words are read as. -/
theorem readAs_definitionWords {definition : List Char} {construction : List (List Char)}
    (h : cleanConstruction definition = .ok construction) :
    ReadAs (definitionWords definition) (toStrings construction) := by
  unfold cleanConstruction at h
  split at h
  next => cases h
  next bare hbare =>
    rw [definitionWords, hbare]
    exact readAs_toStrings h

/-- The categories of an alternative are what its category and its definition are read as. -/
theorem readAs_constructor {typeText definition type : List Char} {construction : List (List Char)}
    (htype : cleanType typeText = .ok type) (h : cleanConstruction definition = .ok construction)
    (label : String) :
    ReadAs (typeText :: definitionWords definition)
      (Rule.constructor ⟨label, String.ofList type, toStrings construction, line⟩).categories := by
  refine .cons ?_ (readAs_definitionWords h)
  rw [String.toList_ofList]
  exact htype

/-- The categories of the rules of a shorthand are what its texts are read as. -/
theorem readAs_shorthandTexts (h : readAlternatives line text = .ok (rules.map .ok)) :
    ReadAs (shorthandTexts text) (rules.flatMap Rule.categories) := by
  obtain ⟨typeText, definition, type, hcut, htype, -⟩ := readAlternatives_eq_ok h
  obtain ⟨hlength, hentries⟩ := getElem_readAlternative (mapIdx_readAlternative_eq hcut htype h)
  rw [shorthandTexts, hcut]
  -- An alternative gives one rule, with the category of the shorthand and its own symbol.
  have hrules : List.Forall₂ (fun alternative declared =>
      ReadAs (typeText :: definitionWords alternative) declared.categories)
      (alternatives definition) rules := by
    refine List.forall₂_iff_get.mpr ⟨hlength, fun i hi hi' => ?_⟩
    obtain ⟨construction, hconstruction, hdeclared⟩ := readAlternative_eq_ok (hentries i hi hi')
    show ReadAs (typeText :: definitionWords (alternatives definition)[i]) rules[i].categories
    rw [hdeclared]
    exact readAs_constructor htype hconstruction _
  exact List.rel_flatMap hrules fun _ _ h => h

/-- The categories of a labelled rule are what its texts are read as. -/
theorem readAs_labelledTexts (h : readConstructor line rule = .ok rules) :
    ReadAs (labelledTexts rule) (rules.flatMap Rule.categories) := by
  rcases hdefinition : cutAt? definitionMark rule with _ | ⟨head, definition⟩
  · rw [readConstructor, hdefinition] at h
    cases h
  rcases hdot : cutAt? ['.'] head with _ | ⟨labelText, typeText⟩
  · rw [readConstructor, hdefinition] at h
    dsimp only at h
    rw [hdot] at h
    cases h
  rw [readConstructor_of_cutAt? _ hdefinition hdot] at h
  rw [labelledTexts, hdefinition]
  dsimp only
  rw [hdot]
  dsimp only
  split_ifs at h ⊢
  · cases h
    exact .nil
  · obtain ⟨type, htype, h⟩ := bind_eq_ok_iff.mp h
    obtain ⟨construction, hconstruction, h⟩ := bind_eq_ok_iff.mp h
    cases h
    rw [List.flatMap_singleton]
    exact readAs_constructor htype hconstruction _

/-- The categories of the rules of a declaration are what its texts are read as. -/
theorem Declares.readAs (h : Declares line rule rules) :
    ReadAs (categoryTexts rule) (rules.flatMap Rule.categories) := by
  cases h with
  | pragma hkeyword =>
    rw [categoryTexts, if_pos (List.contains_iff_mem.mpr hkeyword)]
    exact .nil
  | token hkeyword hread =>
    obtain ⟨word, name, others, type, hwords, htype, rfl⟩ := readToken_eq_ok hread
    have htexts : categoryTexts rule = [name] := by
      rw [categoryTexts, hkeyword, hwords]
      rfl
    rw [htexts, List.flatMap_singleton]
    refine .cons ?_ .nil
    rw [String.toList_ofList]
    exact htype
  | entrypoints hkeyword hread =>
    obtain ⟨types, htypes, -, rfl⟩ := readEntrypoint_eq_ok hread
    have htexts : categoryTexts rule = entries (rule.drop "entrypoints".length) := by
      rw [categoryTexts, hkeyword]
      rfl
    rw [htexts, List.flatMap_singleton]
    exact readAs_toStrings htypes
  | shorthand hkeyword hread =>
    have htexts : categoryTexts rule = shorthandTexts (rule.drop "rules".length) := by
      rw [categoryTexts, hkeyword]
      rfl
    rw [htexts]
    exact readAs_shorthandTexts hread
  | labelled hkeyword hread =>
    have htexts : categoryTexts rule = labelledTexts rule := by
      simp only [lineKeywords, List.mem_append, List.mem_cons, List.not_mem_nil, or_false,
        not_or] at hkeyword
      obtain ⟨hignored, htoken, hentrypoints, hrules⟩ := hkeyword
      rw [categoryTexts, if_neg (mt List.contains_iff_mem.mp hignored), if_neg htoken,
        if_neg hentrypoints, if_neg hrules]
    rw [htexts]
    exact readAs_labelledTexts hread

/-- The categories of the rules of a line are what its texts are read as. -/
theorem readAs_lineTexts {text : String} (h : parseLine text line = .ok rules) :
    ReadAs (lineTexts text.toList) (rules.flatMap Rule.categories) := by
  obtain ⟨rule, hrule, hdeclares⟩ := exists_declares_of_parseLine h
  rw [lineTexts, hrule]
  exact hdeclares.readAs

/-- Nothing is read from a blank line. -/
theorem lineTexts_of_allBlank {text : List Char} (h : allBlank text = true) :
    lineTexts text = [] := by
  have htrim : trim text = [] := by
    have hnone := trim_append_left h []
    rwa [List.append_nil] at hnone
  rw [lineTexts, declaration, htrim]
  rfl

/-- What holds of all texts of a kind holds of all categories of another, if reading a text takes
one to the other. -/
theorem ReadAs.forall_mem_iff {texts : List (List Char)} {names : List String}
    {P : List Char → Prop} {Q : String → Prop} (h : ReadAs texts names)
    (hiff : ∀ text name, cleanType text = .ok name.toList → (P text ↔ Q name)) :
    (∀ text ∈ texts, P text) ↔ ∀ name ∈ names, Q name := by
  induction h with
  | nil => exact iff_of_true (List.forall_mem_nil _) (List.forall_mem_nil _)
  | cons hread _ ih => rw [List.forall_mem_cons, List.forall_mem_cons, hiff _ _ hread, ih]

/-- A text writes some tidy name exactly if reading what it is read as changes nothing. -/
theorem exists_writesTidy_iff {text : List Char} {name : String}
    (h : cleanType text = .ok name.toList) :
    (∃ name, WritesTidy name text) ↔ cleanType name.toList = .ok name.toList := by
  rw [← isTidy_iff]
  constructor
  · rintro ⟨other, hother⟩
    obtain ⟨hread, htidy⟩ := Parser.writesTidy_iff.mp hother
    rw [h] at hread
    rwa [Except.ok.inj hread]
  · intro htidy
    exact ⟨_, Parser.writesTidy_iff.mpr ⟨h, htidy⟩⟩

end Parser

/-! ## Grammars -/

variable {text : String} {rules : List Rule}

/-- The texts in the lines of a text that are read as categories, in order. -/
def writtenCategories (text : String) : List (List Char) :=
  (splitLines text.toList).flatMap Parser.lineTexts

/-- What is known about the categories that the rules of a text name. -/
structure ReadsTidyNames (text : String) (rules : List Rule) : Prop where
  /-- They are what the texts in the lines are read as, perhaps with identifiers behind them. -/
  readAs : ∃ names, Parser.ReadAs (writtenCategories text) names ∧
    (rules.flatMap Rule.categories = names ∨ rules.flatMap Rule.categories = names ++ ["Ident"])
  /-- Reading a name once more gives that name exactly if the name is tidy. -/
  unchanged_iff : ∀ name ∈ rules.flatMap Rule.categories,
    Parser.cleanType name.toList = .ok name.toList ↔ Parser.IsTidy name.toList
  /-- A text is read as a tidy name exactly if it writes that name. -/
  writesTidy_iff : ∀ written ∈ writtenCategories text, ∀ name,
    Parser.cleanType written = .ok name ∧ Parser.IsTidy name ↔ Parser.WritesTidy name written
  /-- So reading the names once more changes none exactly if all texts write tidy names. -/
  all_unchanged_iff :
    (∀ name ∈ rules.flatMap Rule.categories, Parser.cleanType name.toList = .ok name.toList) ↔
      ∀ written ∈ writtenCategories text, ∃ name, Parser.WritesTidy name written

/-- Where no line is rejected, the categories of the rules are what the texts in the lines are read
as. -/
theorem readAs_rulesOfLines (haccepted : ∀ number e, ¬ RejectsLine text number e) :
    Parser.ReadAs (writtenCategories text) ((rulesOfLines text).flatMap Rule.categories) := by
  have htexts : writtenCategories text =
      ((splitLines text.toList).zipIdx 1).flatMap fun entry => Parser.lineTexts entry.1 := by
    have hlines := List.zipIdx_map_fst 1 (splitLines text.toList)
    rw [writtenCategories]
    conv_lhs => rw [← hlines]
    rw [List.flatMap_map]
  rw [htexts, rulesOfLines, List.flatMap_assoc]
  have hlines : ∀ entry ∈ (splitLines text.toList).zipIdx 1,
      Parser.ReadAs (Parser.lineTexts entry.1)
        ((rulesOfLine entry.1 entry.2).flatMap Rule.categories) := by
    rintro ⟨line, number⟩ hmem
    obtain ⟨hpos, hline⟩ := List.mk_mem_zipIdx_iff_le_and_getElem?_sub.mp hmem
    rw [rulesOfLine]
    by_cases hblank : allBlank line = true
    · rw [if_pos hblank, Parser.lineTexts_of_allBlank hblank]
      exact .nil
    rw [if_neg hblank]
    -- A line that is not blank can be read, or the text would have been rejected.
    cases hread : Parser.parseLine (String.ofList line) (.number number) with
    | error e =>
      have hhas : HasLine text number (String.ofList line) :=
        ⟨hpos, by rwa [String.toList_ofList], by simpa using hblank⟩
      exact absurd ⟨_, hhas, hread⟩ (haccepted number e)
    | ok rules => simpa using Parser.readAs_lineTexts hread
  exact List.rel_flatMap (List.forall₂_same.mpr hlines) fun _ _ h => h

/-- Reading the names of a grammar once more changes none exactly if all texts that they are read
from write tidy names. -/
theorem readsTidyNames (h : parseGrammar text = .ok rules) : ReadsTidyNames text rules := by
  obtain ⟨haccepted, rfl⟩ := eq_injectIdent_of_parseGrammar h
  have hread := readAs_rulesOfLines haccepted
  have hcategories : (injectIdent (rulesOfLines text)).flatMap Rule.categories =
        (rulesOfLines text).flatMap Rule.categories ∨
      (injectIdent (rulesOfLines text)).flatMap Rule.categories =
        (rulesOfLines text).flatMap Rule.categories ++ ["Ident"] := by
    rcases injectIdent_eq_or_eq (rulesOfLines text) with hsame | hident
    · exact .inl (by rw [hsame])
    · exact .inr (by rw [hident, List.flatMap_append]; rfl)
  have hident : Parser.cleanType "Ident".toList = .ok "Ident".toList := by
    refine Parser.cleanType_name ⟨by decide, List.all_eq_true.mp (by decide), ?_⟩
      (List.forall_mem_nil _) rfl
    rintro c ⟨⟩
    decide
  refine ⟨⟨_, hread, hcategories⟩, fun name _ => Parser.isTidy_iff.symm,
    fun written _ name => Parser.writesTidy_iff.symm, ?_⟩
  have hwritten := hread.forall_mem_iff fun text name => Parser.exists_writesTidy_iff
  rw [hwritten]
  rcases hcategories with hsame | hmore
  · rw [hsame]
  · rw [hmore, List.forall_mem_append, List.forall_mem_singleton]
    exact and_iff_left hident

/-- The categories of a rule and of an entrypoint declaration, of which `[Exp2]` and `"Exp "` are not
tidy. -/
theorem readsTidyNames_mixed :
    ∃ rules,
      parseGrammar "EAll. Exp1 ::= \"[\" [Exp2]3 Ident ;\nentrypoints Exp 1, [ Exp2 ] ;" = .ok rules ∧
      rules.flatMap Rule.categories = ["Exp", "[Exp2]", "Ident", "Exp ", "[Exp]", "Ident"] ∧
      ReadsTidyNames "EAll. Exp1 ::= \"[\" [Exp2]3 Ident ;\nentrypoints Exp 1, [ Exp2 ] ;" rules := by
  let rules : List Rule :=
    [.constructor ⟨"EAll", "Exp", ["[Exp2]", "Ident"], .number 1⟩,
      .entrypoint ⟨["Exp ", "[Exp]"], .number 2⟩, .token ⟨"Ident", .unknown⟩]
  have h : parseGrammar "EAll. Exp1 ::= \"[\" [Exp2]3 Ident ;\nentrypoints Exp 1, [ Exp2 ] ;" =
      .ok rules := by decide +kernel
  exact ⟨rules, h, rfl, readsTidyNames h⟩

/-- Digits between brackets, and white space, stay in the name of a category if digits stand behind
them. Read once more, such a name gives another one or is rejected. -/
theorem untidy_names :
    parseGrammar "EAll. Exp ::= [Exp2]3 ;" =
        .ok [.constructor ⟨"EAll", "Exp", ["[Exp2]"], .number 1⟩] ∧
      Parser.cleanType "[Exp2]".toList = .ok "[Exp]".toList ∧
      parseGrammar "entrypoints Exp 1 ;" = .ok [.entrypoint ⟨["Exp "], .number 1⟩] ∧
      Parser.cleanType "Exp ".toList = .ok "Exp".toList ∧
      parseGrammar "EAll. Exp ::= [1]2 ;" =
        .ok [.constructor ⟨"EAll", "Exp", ["[1]"], .number 1⟩] ∧
      Parser.cleanType "[1]".toList = .error (.invalidTypeName "1") := by
  refine ⟨?_, ?_, ?_, ?_, ?_, ?_⟩ <;> decide +kernel

end SyntaxBridge
