import SyntaxBridge.Proofs.Grammar.LabelledRule

/-!
# What a line declares

The first word of a declaration says which of five forms it has, and a line that can be read has one
of them (`exists_declares_of_parseLine`). The lemmas on the readers say what each form gives. Only
the form with the word `token` gives a token (`Declares.eq_of_token_mem`).
-/

namespace SyntaxBridge.Parser

open Outcome Text

/-- The first word of a declaration. -/
def keyword (rule : List Char) : String :=
  String.ofList (firstWord rule).1

/-- The rules of a declaration that can be read, by the form that it has. -/
inductive Declares (line : LineNumber) (rule : List Char) : List Rule → Prop
  /-- A pragma gives no rules. -/
  | pragma (hkeyword : keyword rule ∈ ignoredKeywords) : Declares line rule []
  /-- A category of words. -/
  | token {token : Rule} (hkeyword : keyword rule = "token")
    (hread : readToken line rule = .ok token) : Declares line rule [token]
  /-- The categories that a text may be parsed as. -/
  | entrypoints {entrypoint : Rule} (hkeyword : keyword rule = "entrypoints")
    (hread : readEntrypoint line (rule.drop "entrypoints".length) = .ok entrypoint) :
    Declares line rule [entrypoint]
  /-- A shorthand for several rules, none of which is at fault. -/
  | shorthand {rules : List Rule} (hkeyword : keyword rule = "rules")
    (hread : readAlternatives line (rule.drop "rules".length) = .ok (rules.map .ok)) :
    Declares line rule rules
  /-- A labelled rule, which may have a label that is dropped. -/
  | labelled {rules : List Rule} (hkeyword : keyword rule ∉ lineKeywords)
    (hread : readConstructor line rule = .ok rules) : Declares line rule rules

variable {line : LineNumber} {rule : List Char} {rules : List Rule}

/-- A declaration stands on its line with a semicolon behind it and with white space around both. -/
theorem exists_eq_append_of_declaration {text : List Char} (h : declaration text = .ok rule) :
    (rule ≠ [] ∧ IsBare rule) ∧ ∃ start space finish, allBlank start = true ∧
      allBlank space = true ∧ allBlank finish = true ∧
        text = start ++ rule ++ space ++ [';'] ++ finish := by
  rw [declaration, ite_throw_eq_ok_iff, ite_throw_eq_ok_iff, not_not] at h
  obtain ⟨hsemicolon, hne, h⟩ := h
  obtain ⟨body, hbody⟩ := List.getLast?_eq_some_iff.mp hsemicolon
  rw [hbody, List.dropLast_concat] at h hne
  obtain rfl : trim body = rule := Except.ok.inj h
  obtain ⟨start, finish, hstart, hfinish, htext⟩ := exists_eq_append_trim text
  obtain ⟨front, space, hfront, hspace, hline⟩ := exists_eq_append_trim body
  have hblank : allBlank (start ++ front) = true := by
    rw [allBlank, List.all_append]
    exact Bool.and_eq_true_iff.mpr ⟨hstart, hfront⟩
  refine ⟨⟨by simpa using hne, isBare_trim body⟩, start ++ front, space, finish, hblank, hspace,
    hfinish, ?_⟩
  rw [htext, hbody, hline, trim_append hfront (isBare_trim body) hspace]
  simp only [List.append_assoc]

/-- The rules of a line are put together if none of them is at fault. -/
theorem parseLine_eq_ok_iff_readRules {text : String} :
    parseLine text line = .ok rules ↔ readRules line text.toList = .ok (rules.map .ok) := by
  refine ⟨fun h => ?_, parseLine_of_readRules⟩
  rw [parseLine] at h
  cases hread : readRules line text.toList >>= fun entries => entries.mapM id with
  | error cause =>
    rw [hread] at h
    cases h
  | ok declared =>
    rw [hread] at h
    obtain rfl : declared = rules := Except.ok.inj h
    obtain ⟨entries, hentries, hrules⟩ := bind_eq_ok_iff.mp hread
    rw [hentries, mapM_id_eq_ok_iff.mp hrules]

/-- What is put together from rules that are not at fault is those rules. -/
theorem map_ok_injective : Function.Injective (List.map (Except.ok (ε := Cause) (α := Rule))) :=
  List.map_injective_iff.mpr fun _ _ => Except.ok.inj

/-- A declaration that gives one rule gives no other. -/
theorem bind_singleton_eq_ok_iff {x : Except Cause Rule} :
    (do return [← x].map .ok : Except Cause (List (Except Cause Rule))) = .ok (rules.map .ok) ↔
      ∃ declared, x = .ok declared ∧ rules = [declared] := by
  rw [bind_eq_ok_iff]
  refine exists_congr fun declared => and_congr_right fun _ => ?_
  exact ⟨fun h => (map_ok_injective (Except.ok.inj h)).symm, fun h => by rw [h]; rfl⟩

/-- A line that can be read is a declaration that has one of the five forms. -/
theorem exists_declares_of_parseLine {text : String} (h : parseLine text line = .ok rules) :
    ∃ rule, declaration text.toList = .ok rule ∧ Declares line rule rules := by
  rw [parseLine_eq_ok_iff_readRules, readRules] at h
  obtain ⟨rule, hrule, h⟩ := bind_eq_ok_iff.mp h
  refine ⟨rule, hrule, ?_⟩
  dsimp only at h
  split_ifs at h with hignored htoken hentrypoints hrules
  · obtain rfl : rules = [] := map_ok_injective (Except.ok.inj h).symm
    exact .pragma (List.contains_iff_mem.mp hignored)
  · obtain ⟨declared, hread, rfl⟩ := bind_singleton_eq_ok_iff.mp h
    exact .token htoken hread
  · obtain ⟨declared, hread, rfl⟩ := bind_singleton_eq_ok_iff.mp h
    rw [hentrypoints] at hread
    exact .entrypoints hentrypoints hread
  · rw [hrules] at h
    exact .shorthand hrules h
  · obtain ⟨declared, hread, h⟩ := bind_eq_ok_iff.mp h
    obtain rfl : declared = rules := map_ok_injective (Except.ok.inj h)
    have hignored : keyword rule ∉ ignoredKeywords :=
      fun hmem => hignored (List.contains_iff_mem.mpr hmem)
    refine .labelled ?_ hread
    simpa [lineKeywords, hignored] using ⟨htoken, hentrypoints, hrules⟩

/-! ## The rules of each form -/

/-- A declaration names a category as a token: its first word says so, and its second is the name of
the category. -/
def NamesToken (rule : List Char) (type : String) : Prop :=
  keyword rule = "token" ∧ ∃ word name others, words rule = word :: name :: others ∧
    cleanType name = .ok type.toList

/-- The entries of a text with commas between them. Those of white space do not count. -/
def entries (text : List Char) : List (List Char) :=
  (splitOn ',' text).filter (!allBlank ·)

/-- A declaration names entrypoints: its first word says so, and its entries come behind it. -/
def NamesEntrypoints (rule : List Char) (texts : List (List Char)) : Prop :=
  keyword rule = "entrypoints" ∧ texts = entries (rule.drop "entrypoints".length)

/-- Texts are read as categories, one by one and in order. -/
def ReadAs (texts : List (List Char)) (categories : List String) : Prop :=
  List.Forall₂ (fun text category => cleanType text = .ok category.toList) texts categories

theorem readAs_toStrings {texts names : List (List Char)} (h : texts.mapM cleanType = .ok names) :
    ReadAs texts (toStrings names) := by
  rw [ReadAs, toStrings, List.forall₂_map_right_iff]
  simp only [String.toList_ofList]
  exact mapM_eq_ok_iff.mp h

/-- What is read as a token is the token that the declaration names. -/
theorem readToken_eq_ok {token : Rule} (h : readToken line rule = .ok token) :
    ∃ word name others type, words rule = word :: name :: others ∧ cleanType name = .ok type ∧
      token = .token ⟨String.ofList type, line⟩ := by
  unfold readToken at h
  split at h
  next word name others hwords =>
    obtain ⟨type, htype, h⟩ := bind_eq_ok_iff.mp h
    cases h
    exact ⟨word, name, others, type, hwords, htype, rfl⟩
  next => cases h

/-- What is read as entrypoints are the categories between the commas. -/
theorem readEntrypoint_eq_ok {text : List Char} {entrypoint : Rule}
    (h : readEntrypoint line text = .ok entrypoint) :
    ∃ types, (entries text).mapM cleanType = .ok types ∧ types ≠ [] ∧
      entrypoint = .entrypoint ⟨toStrings types, line⟩ := by
  obtain ⟨types, htypes, h⟩ := bind_eq_ok_iff.mp h
  split_ifs at h with hempty
  · cases h
  · cases h
    exact ⟨types, htypes, fun hnil => hempty (List.isEmpty_iff.mpr hnil), rfl⟩

/-- An alternative of a shorthand gives a constructor of its category, made from its symbol. -/
theorem readAlternative_eq_ok {type alternative : List Char} {number : Nat} {declared : Rule}
    (h : readAlternative line type alternative number = .ok declared) :
    ∃ construction, cleanConstruction alternative = .ok construction ∧
      declared = .constructor ⟨String.ofList (alternativeLabel type alternative number),
        String.ofList type, toStrings construction, line⟩ := by
  unfold readAlternative at h
  split_ifs at h
  · cases h
  · obtain ⟨construction, hconstruction, h⟩ := bind_eq_ok_iff.mp h
    cases h
    exact ⟨construction, hconstruction, rfl⟩

/-- A shorthand gives the constructors that its alternatives are read as. -/
theorem readAlternatives_eq_ok {text : List Char}
    (h : readAlternatives line text = .ok (rules.map .ok)) :
    ∃ typeText definition type, cutAt? definitionMark text = some (typeText, definition) ∧
      cleanType typeText = .ok type ∧
      ∀ declared ∈ rules, ∃ alternative ∈ (splitOn '|' definition).map trim, ∃ number,
        readAlternative line type alternative number = .ok declared := by
  unfold readAlternatives at h
  split at h
  next typeText definition hcut =>
    obtain ⟨type, htype, h⟩ := bind_eq_ok_iff.mp h
    dsimp only at h
    split_ifs at h
    · cases h
    · refine ⟨typeText, definition, type, hcut, htype, fun declared hdeclared => ?_⟩
      -- An entry that is no fault stands at the place of an alternative.
      have hentry : (.ok declared : Except Cause Rule) ∈ rules.map .ok :=
        List.mem_map_of_mem hdeclared
      rw [← Except.ok.inj h] at hentry
      obtain ⟨i, hi, hentry⟩ := List.mem_mapIdx.mp hentry
      exact ⟨_, List.mem_of_mem_filter (List.getElem_mem hi), i + 1, hentry⟩
  next => cases h

/-- A labelled rule gives the constructor that it names, unless its label is dropped. -/
theorem readConstructor_eq_ok (h : readConstructor line rule = .ok rules) :
    ∀ declared ∈ rules, ∃ head definition labelText typeText type construction,
      cutAt? definitionMark rule = some (head, definition) ∧
      cutAt? ['.'] head = some (labelText, typeText) ∧ cleanType typeText = .ok type ∧
      cleanConstruction definition = .ok construction ∧
      declared = .constructor ⟨String.ofList (cleanLabel labelText), String.ofList type,
        toStrings construction, line⟩ := by
  intro declared hdeclared
  rcases hdefinition : cutAt? definitionMark rule with _ | ⟨head, definition⟩
  · rw [readConstructor, hdefinition] at h
    cases h
  rcases hdot : cutAt? ['.'] head with _ | ⟨labelText, typeText⟩
  · rw [readConstructor, hdefinition] at h
    dsimp only at h
    rw [hdot] at h
    cases h
  rw [readConstructor_of_cutAt? _ hdefinition hdot] at h
  split_ifs at h
  · cases h
    cases hdeclared
  · obtain ⟨type, htype, h⟩ := bind_eq_ok_iff.mp h
    obtain ⟨construction, hconstruction, h⟩ := bind_eq_ok_iff.mp h
    cases h
    obtain rfl := List.mem_singleton.mp hdeclared
    exact ⟨head, definition, labelText, typeText, type, construction, rfl, hdot, htype,
      hconstruction, rfl⟩

/-- A shorthand gives nothing but constructors. -/
theorem exists_constructor_of_readAlternatives {text : List Char} {declared : Rule}
    (h : readAlternatives line text = .ok (rules.map .ok)) (hmem : declared ∈ rules) :
    ∃ alternative, declared = .constructor alternative := by
  obtain ⟨_, _, _, _, _, hrules⟩ := readAlternatives_eq_ok h
  obtain ⟨_, _, _, hread⟩ := hrules declared hmem
  obtain ⟨_, _, hconstructor⟩ := readAlternative_eq_ok hread
  exact ⟨_, hconstructor⟩

/-- A labelled rule gives nothing but constructors. -/
theorem exists_constructor_of_readConstructor {declared : Rule}
    (h : readConstructor line rule = .ok rules) (hmem : declared ∈ rules) :
    ∃ alternative, declared = .constructor alternative := by
  obtain ⟨_, _, _, _, _, _, _, _, _, _, hconstructor⟩ := readConstructor_eq_ok h declared hmem
  exact ⟨_, hconstructor⟩

/-! ## Tokens and entrypoints -/

/-- A token is the only rule of its declaration, which names it. -/
theorem Declares.eq_of_token_mem {token : Token} (h : Declares line rule rules)
    (hmem : .token token ∈ rules) :
    rules = [.token token] ∧ token.line = line ∧ NamesToken rule token.type := by
  cases h with
  | pragma => cases hmem
  | token hkeyword hread =>
    obtain ⟨word, name, others, type, hwords, htype, rfl⟩ := readToken_eq_ok hread
    cases List.mem_singleton.mp hmem
    exact ⟨rfl, rfl, hkeyword, word, name, others, hwords, by rw [htype, String.toList_ofList]⟩
  | entrypoints _ hread =>
    obtain ⟨types, _, _, rfl⟩ := readEntrypoint_eq_ok hread
    cases List.mem_singleton.mp hmem
  | shorthand _ hread =>
    obtain ⟨_, hconstructor⟩ := exists_constructor_of_readAlternatives hread hmem
    cases hconstructor
  | labelled _ hread =>
    obtain ⟨_, hconstructor⟩ := exists_constructor_of_readConstructor hread hmem
    cases hconstructor

/-- A declaration of the entrypoints is the only rule of its line, which names them. -/
theorem Declares.eq_of_entrypoint_mem {entrypoint : Entrypoint} (h : Declares line rule rules)
    (hmem : .entrypoint entrypoint ∈ rules) :
    rules = [.entrypoint entrypoint] ∧ entrypoint.line = line ∧
      ∃ texts, NamesEntrypoints rule texts := by
  cases h with
  | pragma => cases hmem
  | token _ hread =>
    obtain ⟨_, _, _, _, _, _, rfl⟩ := readToken_eq_ok hread
    cases List.mem_singleton.mp hmem
  | entrypoints hkeyword hread =>
    obtain ⟨types, _, _, rfl⟩ := readEntrypoint_eq_ok hread
    cases List.mem_singleton.mp hmem
    exact ⟨rfl, rfl, _, hkeyword, rfl⟩
  | shorthand _ hread =>
    obtain ⟨_, hconstructor⟩ := exists_constructor_of_readAlternatives hread hmem
    cases hconstructor
  | labelled _ hread =>
    obtain ⟨_, hconstructor⟩ := exists_constructor_of_readConstructor hread hmem
    cases hconstructor

/-- A declaration that names a token gives that token. -/
theorem Declares.eq_of_namesToken {type : String} (h : Declares line rule rules)
    (hnames : NamesToken rule type) : rules = [.token ⟨type, line⟩] := by
  obtain ⟨hkeyword, word, name, others, hwords, htype⟩ := hnames
  have hother {keywords : List String} (hnone : "token" ∉ keywords) :
      keyword rule ∉ keywords := by
    rwa [hkeyword]
  cases h with
  | pragma hpragma => exact absurd hpragma (hother (by decide))
  | token _ hread =>
    rw [readToken, hwords] at hread
    dsimp only at hread
    rw [htype] at hread
    cases hread
    rw [String.ofList_toList]
  | entrypoints hentrypoints => exact absurd (hkeyword.symm.trans hentrypoints) (by decide)
  | shorthand hrules => exact absurd (hkeyword.symm.trans hrules) (by decide)
  | labelled hnone => exact absurd (hkeyword ▸ by decide) hnone

/-- A declaration that names entrypoints gives what its entries are read as. -/
theorem Declares.eq_of_namesEntrypoints {texts : List (List Char)} (h : Declares line rule rules)
    (hnames : NamesEntrypoints rule texts) :
    ∃ types, ReadAs texts types ∧ types ≠ [] ∧ rules = [.entrypoint ⟨types, line⟩] := by
  obtain ⟨hkeyword, rfl⟩ := hnames
  cases h with
  | pragma hpragma =>
    rw [hkeyword] at hpragma
    exact absurd hpragma (by decide)
  | token htoken => exact absurd (hkeyword.symm.trans htoken) (by decide)
  | entrypoints _ hread =>
    obtain ⟨types, htypes, hne, rfl⟩ := readEntrypoint_eq_ok hread
    exact ⟨toStrings types, readAs_toStrings htypes, mt List.map_eq_nil_iff.mp hne, rfl⟩
  | shorthand hrules => exact absurd (hkeyword.symm.trans hrules) (by decide)
  | labelled hnone =>
    rw [hkeyword] at hnone
    exact absurd (by decide) hnone

end SyntaxBridge.Parser
