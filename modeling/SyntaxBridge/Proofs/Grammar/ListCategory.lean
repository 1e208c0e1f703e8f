import SyntaxBridge.Proofs.Grammar.Layout
import SyntaxBridge.Proofs.Grammar.LineByLine

/-!
# Declarations of list categories

List categories are made by the grammar, and a labelled rule for one is refused. The check looks at
the category as it is written, before its precedence digits are dropped, and the other two forms of
declaration have no such check. So a list category is declared exactly by the lines that
`DeclaresList` describes (`exists_hasListType_iff`): a token or a shorthand that names one, or a
labelled rule that names one with digits behind its brackets.
-/

namespace SyntaxBridge

open Outcome Text

/-- The category that a rule declares or extends is that of lists. -/
def Rule.HasListType (rule : Rule) : Prop :=
  ∃ type, rule.type? = some type ∧ Category.isList type = true

/-- A text names a list category, with digits behind its brackets. -/
structure WritesList (text digits : List Char) : Prop where
  isDigit : ∀ c ∈ digits, isDecimalDigit c = true
  trim_eq : ∃ element, element ≠ [] ∧ trim text = '[' :: element ++ [']'] ++ digits

/-- A token declaration names a list category. -/
def NamesListToken (rule : List Char) : Prop :=
  ∃ keyword name others digits, words rule = keyword :: name :: others ∧ WritesList name digits

/-- A shorthand names a list category. -/
def DefinesList (text : List Char) : Prop :=
  ∃ typeText definition digits, cutAt? Parser.definitionMark text = some (typeText, definition) ∧
    WritesList typeText digits

/-- A labelled rule names a list category with digits behind its brackets, and its label is none
that is dropped. -/
def LabelsList (rule : List Char) : Prop :=
  ∃ head definition labelText typeText digits,
    cutAt? Parser.definitionMark rule = some (head, definition) ∧
    cutAt? ['.'] head = some (labelText, typeText) ∧
    String.ofList (Parser.cleanLabel labelText) ∉ Parser.discardedLabels ∧
    digits ≠ [] ∧ WritesList typeText digits

/-- The lines that declare a list category if they are accepted. -/
inductive DeclaresList (text : List Char) : Prop
  /-- A token declaration. -/
  | token {rule : List Char} (hrule : Parser.declaration text = .ok rule)
    (hkeyword : String.ofList (firstWord rule).1 = "token") (hlist : NamesListToken rule)
  /-- A shorthand for several rules. -/
  | shorthand {rule : List Char} (hrule : Parser.declaration text = .ok rule)
    (hkeyword : String.ofList (firstWord rule).1 = "rules")
    (hlist : DefinesList (rule.drop "rules".length))
  /-- A labelled rule, which is any declaration with another first word. -/
  | labelled {rule : List Char} (hrule : Parser.declaration text = .ok rule)
    (hkeyword : String.ofList (firstWord rule).1 ∉
      Parser.ignoredKeywords ++ ["token", "entrypoints", "rules"])
    (hlist : LabelsList rule)

/-! ## Categories -/

/-- A text ends in the digits that are dropped. -/
theorem Text.exists_eq_dropTrailingDigits_append (cs : List Char) :
    ∃ digits, (∀ c ∈ digits, isDecimalDigit c = true) ∧ cs = dropTrailingDigits cs ++ digits :=
  exists_eq_dropEndWhile_append isDecimalDigit cs

/-- A name is that of a list if it is something between brackets. -/
theorem Category.isList_ofList {name : List Char} :
    Category.isList (String.ofList name) = true ↔
      ∃ element, element ≠ [] ∧ name = '[' :: element ++ [']'] := by
  rw [Category.isList, Category.element?, String.toList_ofList, Option.isSome_map,
    Option.isSome_iff_exists]
  exact exists_congr fun element => Category.inner?_eq_some_iff

/-- Digits behind a text keep it from being in brackets. -/
theorem Category.inner?_append_eq_none {digits : List Char} (hne : digits ≠ [])
    (hdigits : ∀ c ∈ digits, isDecimalDigit c = true) (text : List Char) :
    Category.inner? (text ++ digits) = none := by
  refine Option.eq_none_iff_forall_ne_some.mpr fun inner hinner => ?_
  -- The text would have to end in a bracket, but it ends in its last digit.
  have hlast := congrArg List.getLast? (Category.inner?_eq_some_iff.mp hinner).2
  obtain ⟨init, last, rfl⟩ := (List.eq_nil_or_concat digits).resolve_left hne
  have hdigit := hdigits last (by simp)
  have hbracket : last = ']' := by
    simpa [List.getLast?_append, List.getLast?_cons] using hlast
  rw [hbracket] at hdigit
  exact absurd hdigit (by decide)

/-- What names a list category is refused as one if no digits stand behind its brackets. -/
theorem WritesList.isSome_inner?_iff {text digits : List Char} (h : WritesList text digits) :
    (Category.inner? (trim text)).isSome ↔ digits = [] := by
  obtain ⟨element, hne, htrim⟩ := h.trim_eq
  rw [htrim]
  constructor
  · intro hsome
    by_contra hdigits
    rw [Category.inner?_append_eq_none hdigits h.isDigit] at hsome
    exact Bool.noConfusion hsome
  · rintro rfl
    rw [List.append_nil, Category.inner?_eq_some_iff.mpr ⟨hne, rfl⟩]
    rfl

namespace Parser

/-- What is read as a category has a name. -/
theorem ne_nil_of_cleanType {text name : List Char} (h : cleanType text = .ok name) :
    name ≠ [] := by
  cases hinner : Category.inner? (trim text) with
  | none =>
    rw [cleanType_of_inner?_eq_none hinner] at h
    split at h
    · cases h
    next hne =>
      cases h
      exact fun hnil => hne (List.isEmpty_iff.mpr hnil)
  | some inner =>
    rw [cleanType_of_inner?_eq_some hinner] at h
    cases hread : cleanType inner <;> rw [hread] at h <;> cases h
    exact List.cons_ne_nil _ _

/-- A text is read as a list category exactly if it names one. -/
theorem isList_iff_of_cleanType {text name : List Char} (h : cleanType text = .ok name) :
    Category.isList (String.ofList name) = true ↔ ∃ digits, WritesList text digits := by
  cases hinner : Category.inner? (trim text) with
  | none =>
    rw [cleanType_of_inner?_eq_none hinner] at h
    split at h <;> cases h
    rw [Category.isList_ofList]
    constructor
    · rintro ⟨element, hne, hname⟩
      obtain ⟨digits, hdigits, htrim⟩ := exists_eq_dropTrailingDigits_append (trim text)
      exact ⟨digits, hdigits, element, hne, by rw [← hname, ← htrim]⟩
    · rintro ⟨digits, hdigits, element, hne, htrim⟩
      refine ⟨element, hne, ?_⟩
      rw [htrim]
      refine dropTrailingDigits_append (fun c hc => ?_) hdigits
      obtain rfl : ']' = c := by simpa [List.getLast?_append, List.getLast?_cons] using hc
      decide
  | some inner =>
    rw [cleanType_of_inner?_eq_some hinner] at h
    cases hread : cleanType inner <;> rw [hread] at h <;> cases h
    obtain ⟨hne, htrim⟩ := Category.inner?_eq_some_iff.mp hinner
    -- What stands between the brackets is a category again, so both sides hold.
    refine iff_of_true ?_ ⟨[], List.forall_mem_nil _, inner, hne, by rw [List.append_nil, htrim]⟩
    exact Category.isList_ofList.mpr ⟨_, ne_nil_of_cleanType hread, rfl⟩

/-! ## Readers -/

variable {line : LineNumber}

/-- A token has a list type exactly if its declaration names a list category. -/
theorem hasListType_iff_of_readToken {rule : List Char} {token : Rule}
    (h : readToken line rule = .ok token) : token.HasListType ↔ NamesListToken rule := by
  unfold readToken at h
  split at h
  next keyword name others hwords =>
    obtain ⟨type, htype, h⟩ := bind_eq_ok_iff.mp h
    cases h
    have hlist := isList_iff_of_cleanType htype
    constructor
    · rintro ⟨_, htype, hisList⟩
      cases htype
      obtain ⟨digits, hwritten⟩ := hlist.mp hisList
      exact ⟨keyword, name, others, digits, hwords, hwritten⟩
    · rintro ⟨_, _, _, digits, hwords', hwritten⟩
      rw [hwords] at hwords'
      cases hwords'
      exact ⟨_, rfl, hlist.mpr ⟨digits, hwritten⟩⟩
  next => cases h

/-- A declaration of the entrypoints declares no category. -/
theorem type?_of_readEntrypoint {text : List Char} {rule : Rule}
    (h : readEntrypoint line text = .ok rule) : rule.type? = none := by
  obtain ⟨types, _, h⟩ := bind_eq_ok_iff.mp h
  split at h <;> cases h
  rfl

/-- An alternative belongs to the category of its shorthand. -/
theorem type?_of_readAlternative {type alternative : List Char} {number : Nat} {rule : Rule}
    (h : readAlternative line type alternative number = .ok rule) :
    rule.type? = some (String.ofList type) := by
  unfold readAlternative at h
  split at h
  · cases h
  · obtain ⟨_, _, h⟩ := bind_eq_ok_iff.mp h
    cases h
    rfl

/-- The rules of a shorthand, of which there is at least one, belong to the category that stands
before its definition mark. -/
theorem type?_of_readAlternatives {text : List Char} {rules : List Rule}
    (h : (readAlternatives line text >>= fun entries => entries.mapM id) = .ok rules) :
    rules ≠ [] ∧ ∃ typeText definition type,
      cutAt? definitionMark text = some (typeText, definition) ∧ cleanType typeText = .ok type ∧
      ∀ rule ∈ rules, rule.type? = some (String.ofList type) := by
  obtain ⟨entries, hentries, hrules⟩ := bind_eq_ok_iff.mp h
  unfold readAlternatives at hentries
  split at hentries
  next typeText definition hcut =>
    obtain ⟨type, htype, hentries⟩ := bind_eq_ok_iff.mp hentries
    dsimp only at hentries
    split_ifs at hentries with hempty
    · cases hentries
    cases hentries
    have hread := mapM_id_eq_ok_iff.mp hrules
    refine ⟨?_, typeText, definition, type, hcut, htype, fun rule hrule => ?_⟩
    · rintro rfl
      exact hempty (List.isEmpty_iff.mpr (List.mapIdx_eq_nil_iff.mp hread))
    · have hentry : (.ok rule : Except Cause Rule) ∈ rules.map .ok := List.mem_map_of_mem hrule
      rw [← hread] at hentry
      obtain ⟨i, _, hentry⟩ := List.mem_mapIdx.mp hentry
      exact type?_of_readAlternative hentry
  next => cases hentries

/-- A shorthand gives rules of a list category exactly if it names one. -/
theorem exists_hasListType_iff_of_readAlternatives {text : List Char} {rules : List Rule}
    (h : (readAlternatives line text >>= fun entries => entries.mapM id) = .ok rules) :
    (∃ rule ∈ rules, rule.HasListType) ↔ DefinesList text := by
  obtain ⟨hne, typeText, definition, type, hcut, htype, hrules⟩ := type?_of_readAlternatives h
  have hlist := isList_iff_of_cleanType htype
  constructor
  · rintro ⟨rule, hrule, _, hruleType, hisList⟩
    rw [hrules rule hrule] at hruleType
    cases hruleType
    obtain ⟨digits, hwritten⟩ := hlist.mp hisList
    exact ⟨typeText, definition, digits, hcut, hwritten⟩
  · rintro ⟨_, _, digits, hcut', hwritten⟩
    rw [hcut] at hcut'
    cases hcut'
    -- There is a rule, and like all of them it belongs to the category.
    obtain ⟨rule, hrule⟩ := List.exists_mem_of_ne_nil rules hne
    exact ⟨rule, hrule, _, hrules rule hrule, hlist.mpr ⟨digits, hwritten⟩⟩

/-- A labelled rule gives a rule of a list category exactly if it names one with digits behind the
brackets: without them the check for list categories would have refused it. -/
theorem exists_hasListType_iff_of_readConstructor {rule : List Char} {rules : List Rule}
    (h : readConstructor line rule = .ok rules) :
    (∃ rule ∈ rules, rule.HasListType) ↔ LabelsList rule := by
  rcases hdefinition : cutAt? definitionMark rule with _ | ⟨head, definition⟩
  · rw [readConstructor, hdefinition] at h
    cases h
  rcases hdot : cutAt? ['.'] head with _ | ⟨labelText, typeText⟩
  · rw [readConstructor, hdefinition] at h
    dsimp only at h
    rw [hdot] at h
    cases h
  have hcuts : LabelsList rule ↔ ∃ digits,
      String.ofList (cleanLabel labelText) ∉ discardedLabels ∧ digits ≠ [] ∧
        WritesList typeText digits := by
    constructor
    · rintro ⟨_, _, _, _, digits, hdefinition', hdot', hrest⟩
      rw [hdefinition] at hdefinition'
      cases hdefinition'
      rw [hdot] at hdot'
      cases hdot'
      exact ⟨digits, hrest⟩
    · rintro ⟨digits, hrest⟩
      exact ⟨head, definition, labelText, typeText, digits, hdefinition, hdot, hrest⟩
  rw [hcuts]
  rw [readConstructor_of_cutAt? _ hdefinition hdot] at h
  split_ifs at h with _ hlabel _ hbrackets
  · cases h
    simp only [List.not_mem_nil, false_and, exists_false, false_iff]
    rintro ⟨_, hkept, _⟩
    exact hkept (List.contains_iff_mem.mp hlabel)
  · obtain ⟨type, htype, h⟩ := bind_eq_ok_iff.mp h
    obtain ⟨construction, _, h⟩ := bind_eq_ok_iff.mp h
    cases h
    have hlist := isList_iff_of_cleanType htype
    constructor
    · rintro ⟨_, hrule, _, hruleType, hisList⟩
      obtain rfl := List.mem_singleton.mp hrule
      cases hruleType
      obtain ⟨digits, hwritten⟩ := hlist.mp hisList
      exact ⟨digits, fun hmem => hlabel (List.contains_iff_mem.mpr hmem),
        hwritten.isSome_inner?_iff.not.mp hbrackets, hwritten⟩
    · rintro ⟨digits, _, _, hwritten⟩
      exact ⟨_, List.mem_singleton_self _, _, rfl, hlist.mpr ⟨digits, hwritten⟩⟩

/-- Only the description that belongs to the first word of a declaration matters. -/
theorem declaresList_iff {text rule : List Char} (hrule : declaration text = .ok rule) :
    DeclaresList text ↔
      (String.ofList (firstWord rule).1 = "token" ∧ NamesListToken rule) ∨
      (String.ofList (firstWord rule).1 = "rules" ∧ DefinesList (rule.drop "rules".length)) ∨
      (String.ofList (firstWord rule).1 ∉
          ignoredKeywords ++ ["token", "entrypoints", "rules"] ∧ LabelsList rule) := by
  constructor
  · rintro (⟨hrule', hkeyword, hlist⟩ | ⟨hrule', hkeyword, hlist⟩ | ⟨hrule', hkeyword, hlist⟩) <;>
      cases hrule.symm.trans hrule'
    · exact .inl ⟨hkeyword, hlist⟩
    · exact .inr (.inl ⟨hkeyword, hlist⟩)
    · exact .inr (.inr ⟨hkeyword, hlist⟩)
  · rintro (⟨hkeyword, hlist⟩ | ⟨hkeyword, hlist⟩ | ⟨hkeyword, hlist⟩)
    · exact .token hrule hkeyword hlist
    · exact .shorthand hrule hkeyword hlist
    · exact .labelled hrule hkeyword hlist

/-- A line that is accepted gives a rule of a list category exactly if it declares one. -/
theorem exists_hasListType_iff_of_parseLine {text : String} {rules : List Rule}
    (h : parseLine text line = .ok rules) :
    (∃ rule ∈ rules, rule.HasListType) ↔ DeclaresList text.toList := by
  have hread : (readRules line text.toList >>= fun entries => entries.mapM id) = .ok rules := by
    rw [parseLine] at h
    cases hx : readRules line text.toList >>= fun entries => entries.mapM id <;>
      rw [hx] at h <;> cases h
    rfl
  rw [readRules, bind_assoc] at hread
  obtain ⟨rule, hrule, hread⟩ := bind_eq_ok_iff.mp hread
  rw [declaresList_iff hrule]
  generalize hword : String.ofList (firstWord rule).1 = keyword at hread ⊢
  dsimp only at hread
  split_ifs at hread with hignored htoken hentrypoints hrules
  · -- Declarations that are dropped leave no rule.
    have hmem : keyword ∈ ignoredKeywords := List.contains_iff_mem.mp hignored
    obtain rfl : rules = [] := by simpa using mapM_id_eq_ok_iff.mp hread
    have htoken : keyword ≠ "token" := by
      rintro rfl
      exact absurd hmem (by decide)
    have hrules : keyword ≠ "rules" := by
      rintro rfl
      exact absurd hmem (by decide)
    simp [htoken, hrules, hmem]
  · subst htoken
    obtain ⟨entries, hentries, hread⟩ := bind_eq_ok_iff.mp hread
    obtain ⟨token, htoken, hentries⟩ := bind_eq_ok_iff.mp hentries
    cases hentries
    obtain rfl : [token] = rules := Except.ok.inj ((mapM_id_eq_ok_iff.mpr rfl).symm.trans hread)
    simp [hasListType_iff_of_readToken htoken]
  · subst hentrypoints
    obtain ⟨entries, hentries, hread⟩ := bind_eq_ok_iff.mp hread
    obtain ⟨entrypoint, hentrypoint, hentries⟩ := bind_eq_ok_iff.mp hentries
    cases hentries
    obtain rfl : [entrypoint] = rules :=
      Except.ok.inj ((mapM_id_eq_ok_iff.mpr rfl).symm.trans hread)
    simp [Rule.HasListType, type?_of_readEntrypoint hentrypoint, ignoredKeywords]
  · subst hrules
    simpa using exists_hasListType_iff_of_readAlternatives hread
  · obtain ⟨entries, hentries, hread⟩ := bind_eq_ok_iff.mp hread
    obtain ⟨declared, hdeclared, hentries⟩ := bind_eq_ok_iff.mp hentries
    cases hentries
    obtain rfl : declared = rules := Except.ok.inj ((mapM_id_eq_ok_iff.mpr rfl).symm.trans hread)
    have hignored : keyword ∉ ignoredKeywords := fun h => hignored (List.contains_iff_mem.mpr h)
    rw [exists_hasListType_iff_of_readConstructor hdeclared]
    simp [htoken, hentrypoints, hrules, hignored]

end Parser

/-! ## Grammars -/

/-- The rules of the lines of a text are those that each line gives. -/
theorem mem_rulesOfLines_iff {text : String} {rule : Rule} :
    rule ∈ rulesOfLines text ↔ ∃ number line rules, HasLine text number line ∧
      Parser.parseLine line (.number number) = .ok rules ∧ rule ∈ rules := by
  simp only [rulesOfLines, List.mem_flatMap, Prod.exists,
    List.mk_mem_zipIdx_iff_le_and_getElem?_sub]
  constructor
  · rintro ⟨line, number, ⟨hpos, hline⟩, hrule⟩
    rw [rulesOfLine] at hrule
    split_ifs at hrule with hblank
    · cases hrule
    · split at hrule
      next rules hread =>
        refine ⟨number, String.ofList line, rules, ⟨hpos, ?_, ?_⟩, hread, hrule⟩
        · rw [String.toList_ofList, hline]
        · simpa using hblank
      next => cases hrule
  · rintro ⟨number, line, rules, hline, hread, hrule⟩
    refine ⟨line.toList, number, ⟨hline.pos, hline.getElem?_eq⟩, ?_⟩
    rw [rulesOfLine, hline.allBlank_eq, if_neg Bool.false_ne_true, String.ofList_toList, hread]
    exact hrule

/-- The synthetic token has no list type. -/
theorem exists_hasListType_injectIdent_iff {rules : List Rule} :
    (∃ rule ∈ injectIdent rules, rule.HasListType) ↔ ∃ rule ∈ rules, rule.HasListType := by
  have htoken : ¬ Rule.HasListType (.token { type := Category.ident }) := by
    rintro ⟨_, htype, hlist⟩
    cases htype
    exact absurd hlist (by decide)
  rw [injectIdent]
  split
  · simp [or_and_right, exists_or, htoken]
  · rfl

/-- An accepted grammar has a rule of a list category exactly if one of its lines declares a list
category: a token or a shorthand that names one, or a labelled rule that names one with digits
behind the brackets. -/
theorem exists_hasListType_iff {text : String} {rules : List Rule}
    (h : parseGrammar text = .ok rules) :
    (∃ rule ∈ rules, rule.HasListType) ↔
      ∃ number line, HasLine text number line ∧ DeclaresList line.toList := by
  obtain ⟨declared, hdeclared, _, rfl⟩ := parseGrammar_eq_ok_iff.mp h
  have haccepted : ∀ number e, ¬ RejectsLine text number e := by
    intro number e hrejected
    obtain ⟨e', he'⟩ := exists_declaredRules_eq_error ⟨number, e, hrejected⟩
    cases hdeclared.symm.trans he'
  obtain rfl := Except.ok.inj (hdeclared.symm.trans (declaredRules_eq_ok haccepted))
  rw [exists_hasListType_injectIdent_iff]
  constructor
  · rintro ⟨rule, hrule, hlist⟩
    obtain ⟨number, line, rules, hline, hread, hrule⟩ := mem_rulesOfLines_iff.mp hrule
    have hdeclares := Parser.exists_hasListType_iff_of_parseLine hread
    exact ⟨number, line, hline, hdeclares.mp ⟨rule, hrule, hlist⟩⟩
  · rintro ⟨number, line, hline, hdeclares⟩
    -- The line can be read, since no line of the text is rejected.
    cases hread : Parser.parseLine line (.number number) with
    | error e => exact absurd ⟨line, hline, hread⟩ (haccepted number e)
    | ok rules =>
      obtain ⟨rule, hrule, hlist⟩ :=
        (Parser.exists_hasListType_iff_of_parseLine hread).mpr hdeclares
      exact ⟨rule, mem_rulesOfLines_iff.mpr ⟨number, line, rules, hline, hread, hrule⟩, hlist⟩

/-- A labelled rule with a digit behind the brackets of its category declares a list category. -/
theorem hasListType_of_digit :
    parseGrammar "Foo. [Exp]2 ::= ;" = .ok [.constructor ⟨"Foo", "[Exp]", [], .number 1⟩] ∧
      ∃ number line, HasLine "Foo. [Exp]2 ::= ;" number line ∧ DeclaresList line.toList := by
  have hread : parseGrammar "Foo. [Exp]2 ::= ;" =
      .ok [.constructor ⟨"Foo", "[Exp]", [], .number 1⟩] := by decide +kernel
  refine ⟨hread, (exists_hasListType_iff hread).mp ⟨_, List.mem_singleton_self _, "[Exp]", rfl, ?_⟩⟩
  decide +kernel

/-- Each of the three forms of declaration can declare a list category. -/
theorem listCategory_declared :
    (∃ rules, parseGrammar "token [Foo] letter ;" = .ok rules ∧
        ∃ rule ∈ rules, rule.HasListType) ∧
      (∃ rules, parseGrammar "rules [Foo] ::= \"a\" | \"b\" ;" = .ok rules ∧
        ∃ rule ∈ rules, rule.HasListType) ∧
      ∃ rules, parseGrammar "Foo. [Exp]2 ::= ;" = .ok rules ∧ ∃ rule ∈ rules, rule.HasListType := by
  refine ⟨⟨[.token ⟨"[Foo]", .number 1⟩], by decide +kernel, _, List.mem_cons_self, ?_⟩,
    ⟨[.constructor ⟨"[Foo]_a", "[Foo]", [], .number 1⟩,
      .constructor ⟨"[Foo]_b", "[Foo]", [], .number 1⟩], by decide +kernel, _,
      List.mem_cons_self, ?_⟩,
    ⟨[.constructor ⟨"Foo", "[Exp]", [], .number 1⟩], by decide +kernel, _,
      List.mem_cons_self, ?_⟩⟩
  · exact ⟨"[Foo]", rfl, by decide +kernel⟩
  · exact ⟨"[Foo]", rfl, by decide +kernel⟩
  · exact ⟨"[Exp]", rfl, by decide +kernel⟩

end SyntaxBridge
