import SyntaxBridge.Proofs.Grammar.Layout
import SyntaxBridge.Proofs.Grammar.Relocation.Reading
import SyntaxBridge.Proofs.Text.Splitting

/-!
# Labelled rules, whatever their layout

`WritesRule` lists the texts that stand for one alternative of a category: its label, perhaps hidden
by the word `internal`, a dot, the category, the definition mark and the definition, with white
space between them, and the semicolon. Reading such a line gives that alternative and nothing else
(`parseLine_of_writesRule`). The dot and the definition mark are searched for in the whole line, and
the literals of the definition may hold either; they are found where they were written because
neither stands in a label or a category before them.
-/

namespace SyntaxBridge

open Text

/-- The words that start a declaration of another kind. -/
def lineKeywords : List String :=
  Parser.ignoredKeywords ++ ["token", "entrypoints", "rules"]

/-- A label that names an alternative and is not taken for a keyword. -/
structure IsRuleLabel (label : String) : Prop where
  identifier : IsAsciiIdentifier label
  ne_wildcard : label ≠ "_"
  notMem : label ∉ lineKeywords

/-- A label that names an alternative is not discarded. -/
theorem IsRuleLabel.contains_discardedLabels {label : String} (h : IsRuleLabel label) :
    Parser.discardedLabels.contains label = false := by
  -- All discarded labels but the wildcard hold brackets.
  have hmarks : ∀ discarded ∈ Parser.discardedLabels,
      discarded = "_" ∨ '[' ∈ discarded.toList ∨ '(' ∈ discarded.toList := by decide
  rw [Bool.eq_false_iff, ne_eq, List.contains_iff_mem]
  intro hmem
  rcases hmarks label hmem with hwildcard | hbracket | hparenthesis
  · exact h.ne_wildcard hwildcard
  · exact h.identifier.notMem (by decide) hbracket
  · exact h.identifier.notMem (by decide) hparenthesis

/-- The texts that stand for a label. -/
inductive WritesLabel (label : String) : List Char → Prop
  /-- The label alone. -/
  | plain : WritesLabel label label.toList
  /-- The label of a rule that is hidden from the grammar's users. -/
  | internal {space : List Char} (hne : space ≠ []) (hspace : allBlank space = true) :
    WritesLabel label ("internal".toList ++ space ++ label.toList)

/-- The texts that stand for one alternative of a category. -/
inductive WritesRule (label type : String) (construction : List String) : List Char → Prop
  /-- The parts of a rule in order, with white space around them. -/
  | line {start labelText afterLabel beforeType digits afterType definition finish : List Char}
    (hlabel : WritesLabel label labelText) (hdigits : ∀ c ∈ digits, isDecimalDigit c = true)
    (hdefinition : WritesDefinition construction definition)
    (hstart : allBlank start = true) (hafterLabel : allBlank afterLabel = true)
    (hbeforeType : allBlank beforeType = true) (hafterType : allBlank afterType = true)
    (hfinish : allBlank finish = true) :
    WritesRule label type construction
      (start ++ labelText ++ afterLabel ++ ['.'] ++ beforeType ++ type.toList ++ digits ++
        afterType ++ "::=".toList ++ definition ++ [';'] ++ finish)

/-! ## Labels -/

namespace WritesLabel

variable {label : String} {labelText : List Char}

/-- The word that hides a rule holds no white space. -/
theorem isBlank_internal : ∀ c ∈ "internal".toList, isBlank c = false := by
  simp [isBlank]

/-- A label is written without a mark, that is without any character that is neither part of an
identifier nor white space. -/
theorem notMem (h : WritesLabel label labelText) (hlabel : IsRuleLabel label) {mark : Char}
    (hmark : (mark.isAlphanum || mark == '_') = false) (hblank : isBlank mark = false) :
    mark ∉ labelText := by
  cases h with
  | plain => exact hlabel.identifier.notMem hmark
  | internal _ hspace =>
    have hword : ∀ c ∈ "internal".toList, (c.isAlphanum || c == '_') = true :=
      List.all_eq_true.mp (by decide)
    simp only [List.mem_append, not_or]
    exact ⟨⟨notMem_of_forall hword hmark, notMem_of_allBlank hspace hblank⟩,
      hlabel.identifier.notMem hmark⟩

/-- A label is written from its first to its last character. -/
theorem isBare (h : WritesLabel label labelText) (hlabel : IsRuleLabel label) :
    labelText ≠ [] ∧ IsBare labelText := by
  have hne : label.toList ≠ [] := by simpa using hlabel.identifier.ne_empty
  have hbare := isBare_of_forall hlabel.identifier.isBlank_eq_false
  cases h with
  | plain => exact ⟨hne, hbare⟩
  | internal _ _ =>
    refine ⟨by simp, fun c hc => ?_, fun c hc => ?_⟩
    · obtain rfl : 'i' = c := Option.some.inj hc
      decide
    · rw [List.getLast?_append_of_ne_nil _ hne] at hc
      exact hbare.last c hc

/-- The label is read without the word that hides its rule. -/
theorem cleanLabel_eq (h : WritesLabel label labelText) (hlabel : IsRuleLabel label)
    {after : List Char} (hafter : allBlank after = true) :
    Parser.cleanLabel (labelText ++ after) = label.toList := by
  have hne : label.toList ≠ [] := by simpa using hlabel.identifier.ne_empty
  have hnoBlank := hlabel.identifier.isBlank_eq_false
  have hnone : allBlank [] = true := rfl
  have htrim : trim (labelText ++ after) = labelText :=
    trim_append hnone (h.isBare hlabel).2 hafter
  rw [Parser.cleanLabel, htrim]
  cases h with
  | plain =>
    -- A label that reads `internal` hides nothing, since nothing follows it.
    have hword : firstWord (label.toList ++ []) = (label.toList, []) :=
      firstWord_append hne hnoBlank (by simp)
    rw [← List.append_nil label.toList, hword, List.append_nil]
    exact if_neg fun hinternal => hinternal.2 rfl
  | @internal space hspaceNe hspace =>
    have hhead := forall_head?_append hspaceNe (List.all_eq_true.mp hspace) label.toList
    have hrest : trimStart (space ++ label.toList) = label.toList := by
      rw [trimStart_append hspace, trimStart_eq_self (isBare_of_forall hnoBlank).head]
    rw [List.append_assoc, firstWord_append (by simp) isBlank_internal hhead, hrest]
    exact if_pos ⟨rfl, hne⟩

/-- The first word of a rule is no keyword. -/
theorem firstWord_notMem (h : WritesLabel label labelText) (hlabel : IsRuleLabel label)
    {after : List Char} (hafter : allBlank after = true) (rest : List Char) :
    String.ofList (firstWord (labelText ++ after ++ '.' :: rest)).1 ∉ lineKeywords := by
  have hne : label.toList ≠ [] := by simpa using hlabel.identifier.ne_empty
  have hnoBlank := hlabel.identifier.isBlank_eq_false
  cases h with
  | plain =>
    cases after with
    | nil =>
      -- The word goes on with the dot, and there is no dot in a keyword.
      have hdot : '.' ∈ (firstWord (label.toList ++ [] ++ '.' :: rest)).1 := by
        have hkept : ∀ c ∈ label.toList, (!isBlank c) = true := fun c hc => by
          rw [hnoBlank c hc]
          rfl
        have hhead := forall_head?_append hne hnoBlank ('.' :: rest)
        rw [List.append_nil, firstWord, trimStart_eq_self hhead,
          List.takeWhile_append_of_pos hkept, List.takeWhile_cons_of_pos (by decide)]
        simp
      have hnone : ∀ keyword ∈ lineKeywords, '.' ∉ keyword.toList := by decide
      intro hmem
      exact hnone _ hmem (by rwa [String.toList_ofList])
    | cons c after =>
      have hhead := forall_head?_append (List.cons_ne_nil c after) (List.all_eq_true.mp hafter)
        ('.' :: rest)
      rw [List.append_assoc, firstWord_append hne hnoBlank hhead, String.ofList_toList]
      exact hlabel.notMem
  | @internal space hspaceNe hspace =>
    have hhead := forall_head?_append hspaceNe (List.all_eq_true.mp hspace)
      (label.toList ++ (after ++ '.' :: rest))
    simp only [List.append_assoc]
    rw [firstWord_append (by simp) isBlank_internal hhead, String.ofList_toList]
    decide

end WritesLabel

/-! ## Categories between white space -/

namespace IsWordName

variable {type digits typeText : List Char}

/-- What holds the name of a category is more than white space. -/
theorem allBlank_eq_false (htype : IsWordName type) (htrim : trim typeText = type ++ digits) :
    allBlank typeText = false := by
  obtain ⟨first, others, rfl⟩ := List.exists_cons_of_ne_nil htype.ne_nil
  have hmem : first ∈ typeText := (trim_sublist typeText).subset (by simp [htrim])
  have hdigits : ∀ c ∈ [], isDecimalDigit c = true := List.forall_mem_nil _
  have hblank := htype.isBlank_eq_false hdigits first (by simp)
  exact Bool.eq_false_iff.mpr fun hall => notMem_of_allBlank hall hblank hmem

/-- The definition mark does not start in a category between white space. -/
theorem colon_notMem (htype : IsWordName type) (hdigits : ∀ c ∈ digits, isDecimalDigit c = true)
    (htrim : trim typeText = type ++ digits) : ':' ∉ typeText := by
  refine notMem_of_notMem_trim (by decide) ?_
  rw [htrim]
  exact htype.notMem hdigits (by decide) (by decide)

end IsWordName

namespace Parser

/-! ## Declarations -/

/-- The declaration on a line, between white space and before the semicolon. -/
theorem declaration_append {start body finish : List Char} (hstart : allBlank start = true)
    (hfinish : allBlank finish = true) (hne : body ≠ [])
    (hhead : ∀ c ∈ body.head?, isBlank c = false) :
    declaration (start ++ (body ++ [';']) ++ finish) = .ok (trimEnd body) := by
  obtain ⟨first, others, rfl⟩ := List.exists_cons_of_ne_nil hne
  have hbare : IsBare (first :: others ++ [';']) := by
    refine ⟨by simpa using hhead, fun c hc => ?_⟩
    rw [List.getLast?_concat, Option.mem_some_iff] at hc
    rw [← hc]
    decide
  have hrule : trim (first :: others) = trimEnd (first :: others) := by
    rw [trim, trimStart_eq_self hhead]
  have hleft : (trimEnd (first :: others)).isEmpty = false := by
    rw [trimEnd_cons, hhead first rfl]
    split <;> rfl
  rw [declaration, trim_append hstart hbare hfinish, List.getLast?_concat, List.dropLast_concat,
    hrule, if_neg (by simp)]
  exact if_neg (by simp [hleft])

/-- A declaration that does not start with a keyword is read as a labelled rule. -/
theorem readRules_of_notMem {text rule : List Char} (line : LineNumber)
    (hrule : declaration text = .ok rule)
    (hkeyword : String.ofList (firstWord rule).1 ∉ lineKeywords) :
    readRules line text = (readConstructor line rule).map (List.map .ok) := by
  simp only [lineKeywords, List.mem_append, List.mem_cons, List.not_mem_nil, or_false,
    not_or] at hkeyword
  obtain ⟨hignored, htoken, hentrypoints, hrules⟩ := hkeyword
  have hignored : ignoredKeywords.contains (String.ofList (firstWord rule).1) = false := by
    simpa using hignored
  rw [readRules, hrule]
  change ite _ _ _ = _
  rw [hignored, if_neg Bool.false_ne_true, if_neg htoken, if_neg hentrypoints, if_neg hrules]
  cases readConstructor line rule <;> rfl

/-- The rules of a line that has no faulty ones. -/
theorem parseLine_of_readRules {text : String} {line : LineNumber} {rules : List Rule}
    (h : readRules line text.toList = .ok (rules.map .ok)) : parseLine text line = .ok rules := by
  have hall : (rules.map (Except.ok (ε := Cause))).mapM id = .ok rules := by
    rw [Outcome.mapM_eq_ok_iff, List.forall₂_map_left_iff]
    exact List.forall₂_same.mpr fun _ _ => rfl
  rw [parseLine, h]
  change Except.mapError _ ((rules.map Except.ok).mapM id) = _
  rw [hall]
  rfl

/-- A labelled rule is read by its parts: the label before the first dot, the category between the
dot and the definition mark, and the definition after the mark. -/
theorem readConstructor_parts {labelText label typeText type digits : List Char}
    (hdot : '.' ∉ labelText) (hcolon : ':' ∉ labelText) (hlabel : cleanLabel labelText = label)
    (hne : label ≠ []) (hkept : String.ofList label ∉ discardedLabels) (htype : IsWordName type)
    (hdigits : ∀ c ∈ digits, isDecimalDigit c = true) (htrim : trim typeText = type ++ digits)
    (line : LineNumber) (definition : List Char) :
    readConstructor line (labelText ++ '.' :: typeText ++ (definitionMark ++ definition)) =
      (cleanConstruction definition).map fun construction =>
        [.constructor ⟨String.ofList label, String.ofList type, toStrings construction, line⟩] := by
  -- The mark and the dot are found where they were written.
  have hmark : ':' ∉ labelText ++ '.' :: typeText := by
    rw [List.mem_append, List.mem_cons, not_or, not_or]
    exact ⟨hcolon, by decide, htype.colon_notMem hdigits htrim⟩
  have hcutMark : cutAt? definitionMark
      (labelText ++ '.' :: typeText ++ (definitionMark ++ definition)) =
        some (labelText ++ '.' :: typeText, definition) :=
    cutAt?_append (by decide) hmark definition
  have hcutDot : cutAt? ['.'] (labelText ++ '.' :: typeText) = some (labelText, typeText) :=
    cutAt?_append rfl hdot typeText
  -- None of the refusals applies.
  have hlabelNe : label.isEmpty = false := by simpa using hne
  have hkept : discardedLabels.contains (String.ofList label) = false := by simpa using hkept
  have hnoList : (Category.inner? (trim typeText)).isSome = false := by
    rw [htrim, htype.inner?_eq_none hdigits]
    rfl
  rw [readConstructor_of_cutAt? line hcutMark hcutDot, hlabel, hlabelNe, hkept,
    htype.allBlank_eq_false htrim, hnoList, cleanType_name htype hdigits htrim]
  cases cleanConstruction definition <;> rfl

/-- A labelled rule that is written with white space around its parts is read by them. -/
theorem readConstructor_append {label type : String} {construction : List String}
    {labelText afterLabel beforeType digits afterType definition : List Char}
    (hlabel : IsRuleLabel label) (htype : IsCategoryName type)
    (hwritten : WritesLabel label labelText) (hdigits : ∀ c ∈ digits, isDecimalDigit c = true)
    (hdefinition : WritesDefinition construction definition)
    (hafterLabel : allBlank afterLabel = true) (hbeforeType : allBlank beforeType = true)
    (hafterType : allBlank afterType = true) (line : LineNumber) :
    readConstructor line (labelText ++ afterLabel ++
        '.' :: (beforeType ++ (type.toList ++ digits) ++ afterType) ++
        (definitionMark ++ definition)) =
      .ok [.constructor ⟨label, type, construction, line⟩] := by
  have hbare := isBare_of_forall (htype.isWordName.isBlank_eq_false hdigits)
  have hnotMem {mark : Char} (hmark : (mark.isAlphanum || mark == '_') = false)
      (hblank : isBlank mark = false) : mark ∉ labelText ++ afterLabel := by
    rw [List.mem_append, not_or]
    exact ⟨hwritten.notMem hlabel hmark hblank, notMem_of_allBlank hafterLabel hblank⟩
  have hkept : String.ofList label.toList ∉ discardedLabels := by
    simpa using hlabel.contains_discardedLabels
  rw [readConstructor_parts (hnotMem (by decide) (by decide)) (hnotMem (by decide) (by decide))
      (hwritten.cleanLabel_eq hlabel hafterLabel) (by simpa using hlabel.identifier.ne_empty) hkept
      htype.isWordName hdigits (trim_append hbeforeType hbare hafterType),
    cleanConstruction_of_writesDefinition hdefinition]
  simp [toStrings, Except.map, String.ofList_toList, Function.comp_def]

end Parser

/-- A line on which one alternative is written is read as that alternative, whatever its layout. -/
theorem parseLine_of_writesRule {label type : String} {construction : List String} {text : String}
    (hlabel : IsRuleLabel label) (htype : IsCategoryName type)
    (htext : WritesRule label type construction text.toList) (line : LineNumber) :
    Parser.parseLine text line = .ok [.constructor ⟨label, type, construction, line⟩] := by
  refine Parser.parseLine_of_readRules ?_
  generalize text.toList = cs at htext
  obtain @⟨start, labelText, afterLabel, beforeType, digits, afterType, definition, finish,
    hwritten, hdigits, hdefinition, hstart, hafterLabel, hbeforeType, hafterType, hfinish⟩ := htext
  obtain ⟨hlabelNe, hlabelBare⟩ := hwritten.isBare hlabel
  let front := labelText ++ afterLabel ++
    '.' :: (beforeType ++ (type.toList ++ digits) ++ afterType)
  let body := front ++ (Parser.definitionMark ++ definition)
  have hbody : start ++ labelText ++ afterLabel ++ ['.'] ++ beforeType ++ type.toList ++ digits ++
      afterType ++ "::=".toList ++ definition ++ [';'] ++ finish =
      start ++ (body ++ [';']) ++ finish := by
    simp [body, front, Parser.definitionMark]
  -- White space behind the definition goes with the semicolon, none before it does.
  have hrule : trimEnd body = front ++ (Parser.definitionMark ++ trimEnd definition) := by
    have hlast : ∀ c ∈ (front ++ Parser.definitionMark).getLast?, isBlank c = false := by
      rw [List.getLast?_append_of_ne_nil _ (by decide)]
      rintro c ⟨⟩
      decide
    rw [← List.append_assoc, ← trimEnd_append_of_ne_nil (by simp [front]) hlast]
    simp [body]
  have hhead : ∀ c ∈ body.head?, isBlank c = false := by
    obtain ⟨first, others, rfl⟩ := List.exists_cons_of_ne_nil hlabelNe
    intro c hc
    cases hc
    exact hlabelBare.head first rfl
  have hdeclaration := Parser.declaration_append hstart hfinish (by simp [body, front]) hhead
  rw [hrule] at hdeclaration
  rw [hbody, Parser.readRules_of_notMem line hdeclaration,
    Parser.readConstructor_append hlabel htype hwritten hdigits hdefinition.trimEnd hafterLabel
      hbeforeType hafterType line]
  · rfl
  · have hword := hwritten.firstWord_notMem hlabel hafterLabel
      (beforeType ++ (type.toList ++ digits) ++ afterType ++
        (Parser.definitionMark ++ trimEnd definition))
    simpa [front] using hword

/-- A hidden rule whose first literal looks like the rest of a rule. -/
theorem parseLine_hidden_rule :
    WritesRule "EAdd" "Exp" ["Exp", "[[Exp]]"]
        "internal EAdd.Exp1::= \"::= ;\" Exp2\"+\"[[Exp3]] ;".toList ∧
      Parser.parseLine "internal EAdd.Exp1::= \"::= ;\" Exp2\"+\"[[Exp3]] ;" (.number 7) =
        .ok [.constructor ⟨"EAdd", "Exp", ["Exp", "[[Exp]]"], .number 7⟩] := by
  have hlabel : IsRuleLabel "EAdd" := ⟨⟨'E', "Add".toList, by decide⟩, by decide, by decide⟩
  have htype : IsCategoryName "Exp" := ⟨⟨'E', "xp".toList, by decide⟩, by rintro c ⟨⟩; decide⟩
  have hmark : Literal.IsLiteral ('"' :: "::= ;".toList ++ ['"']) :=
    .quoted (Literal.isBody_of_forall (by simp))
  have hplus : Literal.IsLiteral ('"' :: ['+'] ++ ['"']) :=
    .quoted (Literal.isBody_of_forall (by simp))
  have hplain : WritesCategory "Exp" ("Exp".toList ++ ['2']) :=
    .name htype (by simp [isDecimalDigit])
  have hlist :
      WritesCategory "[[Exp]]" ('[' :: ('[' :: ("Exp".toList ++ ['3']) ++ [']']) ++ [']']) :=
    .list (.list (.name htype (by simp [isDecimalDigit])))
  have hspace : isBlank ' ' = true := by decide
  have hdefinition := WritesDefinition.blank hspace (.literal hmark (.blank hspace
    (.category hplain (by simp) (.literal hplus
      (.category hlist (by simp [hspace]) (.blank hspace .nil))))))
  have hwritten : WritesLabel "EAdd" ("internal".toList ++ [' '] ++ "EAdd".toList) :=
    .internal (by simp) (by decide)
  have hnone : allBlank [] = true := rfl
  have hdigit : ∀ c ∈ ['1'], isDecimalDigit c = true := by simp [isDecimalDigit]
  have hline : WritesRule "EAdd" "Exp" ["Exp", "[[Exp]]"]
      "internal EAdd.Exp1::= \"::= ;\" Exp2\"+\"[[Exp3]] ;".toList :=
    .line hwritten hdigit hdefinition hnone hnone hnone hnone hnone
  exact ⟨hline, parseLine_of_writesRule hlabel htype hline (.number 7)⟩

end SyntaxBridge
