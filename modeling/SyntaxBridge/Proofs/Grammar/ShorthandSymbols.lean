import SyntaxBridge.Proofs.Grammar.Scanner
import SyntaxBridge.Proofs.Grammar.Shorthand

/-!
# Shorthands for symbols

The alternatives of a shorthand are symbols: names of categories, and literals. The definition is
cut at every bar, and only then are literals looked for. So a literal may hold all characters but
the bar, and each symbol gives a rule. Of a literal that holds a bar only the front is left, which
is not ended (`Literal.IsLiteral.erase?_eq_none`), and the whole shorthand is refused
(`parseLine_of_writesSymbols`).
-/

namespace SyntaxBridge

open Outcome Text

/-- A symbol that may be an alternative of a shorthand. -/
inductive Symbol where
  /-- The name of a category, which may end in precedence digits. -/
  | name (text : List Char) (hname : isIdentifier text = true)
  /-- A literal without white space. -/
  | literal (text : List Char) (hliteral : Literal.IsLiteral text)
    (hblank : ∀ c ∈ text, isBlank c = false)

namespace Symbol

/-- The text of a symbol. -/
def text : Symbol → List Char
  | name text _ => text
  | literal text _ _ => text

/-- The categories that a symbol refers to, without precedence digits. -/
def construction : Symbol → List (List Char)
  | name text _ => [dropTrailingDigits text]
  | literal _ _ _ => []

/-- The rule that a symbol stands for as the alternative with the given number. -/
def rule (line : LineNumber) (type : List Char) (number : Nat) (symbol : Symbol) : Rule :=
  .constructor ⟨String.ofList (Parser.alternativeLabel type symbol.text number),
    String.ofList type, Parser.toStrings symbol.construction, line⟩

end Symbol

/-- The texts of shorthands for symbols, with white space around the category and each symbol. -/
inductive WritesSymbols (type : List Char) (symbols : List Symbol) (text : List Char) : Prop
  | line {typeText : List Char} {parts : List (List Char)}
    (hline : WritesShorthand typeText (['|'].intercalate parts) text)
    (htype : trim typeText = type) (hparts : parts.map trim = symbols.map Symbol.text)

/-! ## Literals that are cut off -/

namespace Literal

variable {body literal front : List Char}

/-- A scanner does not get out of a literal before it has read the body. -/
theorem IsBody.behind_ne (h : IsBody body) (hfront : front <+: body) :
    Mode.inside.behind front ≠ .outside := by
  induction h generalizing front with
  | nil =>
    rw [List.prefix_nil.mp hfront]
    decide
  | @plain c body hquote hslash _ _ ih =>
    rcases List.prefix_cons_iff.mp hfront with rfl | ⟨rest, rfl, hrest⟩
    · decide
    · rw [Mode.behind_cons, Mode.next, if_neg hquote, if_neg hslash]
      exact ih hrest
  | @escaped c body hend _ ih =>
    -- The front may end between the backslash and the character that it takes along.
    rcases List.prefix_cons_iff.mp hfront with rfl | ⟨others, rfl, hothers⟩
    · decide
    rcases List.prefix_cons_iff.mp hothers with rfl | ⟨rest, rfl, hrest⟩
    · decide
    · have hescape : Mode.inside.next '\\' = .escape := by decide
      rw [Mode.behind_cons, hescape, Mode.behind_cons, Mode.next, if_neg hend]
      exact ih hrest

/-- The front of a literal is not ended. -/
theorem IsLiteral.erase?_eq_none (h : IsLiteral literal) (hfront : front <+: literal)
    (hne : front ≠ []) (hwhole : front ≠ literal) : erase? front = none := by
  obtain @⟨body, hbody⟩ := h
  rcases List.prefix_cons_iff.mp hfront with rfl | ⟨inner, rfl, hinner⟩
  · exact absurd rfl hne
  have hinner : inner <+: body := by
    refine (List.prefix_concat_iff.mp hinner).resolve_left fun heq => hwhole ?_
    rw [heq, List.cons_append]
  rw [Option.eq_none_iff_forall_ne_some]
  intro bare herase
  have hquote : Mode.outside.next '"' = .inside := by decide
  have hout := behind_eq_of_erase?_eq_some herase
  rw [Mode.behind_cons, hquote] at hout
  exact hbody.behind_ne hinner hout

end Literal

/-! ## Symbols as alternatives -/

namespace Symbol

variable (symbol : Symbol)

theorem ne_nil : symbol.text ≠ [] := by
  cases symbol with
  | name text hname =>
    rintro rfl
    cases hname
  | literal text hliteral _ => exact hliteral.ends.1

theorem isBlank_eq_false : ∀ c ∈ symbol.text, isBlank c = false := by
  cases symbol with
  | name text hname =>
    exact fun c hc =>
      isBlank_eq_false_of_isIdentifierPart (isIdentifierPart_of_isIdentifier hname c hc)
  | literal text _ hblank => exact hblank

theorem isBare : IsBare symbol.text :=
  isBare_of_forall symbol.isBlank_eq_false

theorem words_text : words symbol.text = [symbol.text] :=
  words_eq_singleton symbol.ne_nil symbol.isBlank_eq_false

end Symbol

namespace Parser

variable {line : LineNumber} {type : List Char} {symbol : Symbol} {symbols : List Symbol}

/-- An identifier that is read as a category loses the digits at its end. -/
theorem cleanType_of_isIdentifier {name text : List Char} (hname : isIdentifier name = true)
    (htext : trim text = name) : cleanType text = .ok (dropTrailingDigits name) := by
  have hbracket : '[' ∉ name :=
    notMem_of_forall (isIdentifierPart_of_isIdentifier hname) (by decide)
  have hne : dropTrailingDigits name ≠ [] := by
    -- The first character is no digit.
    obtain ⟨first, others, rfl⟩ : ∃ first others, name = first :: others :=
      List.exists_cons_of_ne_nil (by rintro rfl; cases hname)
    have hfirst : isDecimalDigit first = false :=
      isDecimalDigit_eq_false_of_isIdentifierStart (Bool.and_eq_true_iff.mp hname).1
    intro hnil
    rw [dropTrailingDigits, List.reverse_eq_nil_iff, List.dropWhile_eq_nil_iff] at hnil
    rw [hnil first (by simp)] at hfirst
    cases hfirst
  have hinner : Category.inner? (trim text) = none := by
    rw [htext, Category.inner?_eq_none_of_notMem (.inl hbracket)]
  rw [cleanType_of_inner?_eq_none hinner, htext, if_neg (by simpa using hne)]

/-- A symbol is read as the categories that it refers to. -/
theorem cleanConstruction_symbol (symbol : Symbol) :
    cleanConstruction symbol.text = .ok symbol.construction := by
  have hwords := symbol.words_text
  have htrim := trim_eq_self symbol.isBare
  cases symbol with
  | name text hname =>
    have hquote : '"' ∉ text :=
      notMem_of_forall (isIdentifierPart_of_isIdentifier hname) (by decide)
    have hclean : cleanType text = .ok (dropTrailingDigits text) :=
      cleanType_of_isIdentifier hname htrim
    change words text = [text] at hwords
    change cleanConstruction text = .ok [dropTrailingDigits text]
    rw [cleanConstruction, Literal.erase?_eq_self hquote]
    dsimp only
    rw [hwords, List.mapM_cons, hclean]
    rfl
  | literal text hliteral _ =>
    have hdefinition : WritesDefinition [] (text ++ []) := .literal hliteral .nil
    rw [List.append_nil] at hdefinition
    exact cleanConstruction_of_writesDefinition hdefinition

/-- A symbol may be the definition of a labelled rule, whatever its literal holds. -/
theorem parseLine_labelledRule_symbol {label : List Char} (hne : label ≠ [])
    (hlabel : ∀ c ∈ label, isAsciiWordChar c = true)
    (hkept : String.ofList label ∉ discardedLabels) (htype : IsWordName type) (symbol : Symbol) :
    parseLine (String.ofList (labelledRule label type symbol.text)) line =
      .ok [.constructor ⟨String.ofList label, String.ofList type,
        toStrings symbol.construction, line⟩] :=
  parseLine_labelledRule hne hlabel hkept htype symbol.ne_nil symbol.isBare
    (cleanConstruction_symbol symbol)

/-- A symbol is read as the rule that it stands for. -/
theorem readAlternative_symbol (line : LineNumber) (type : List Char) (number : Nat)
    (symbol : Symbol) :
    readAlternative line type symbol.text number = .ok (symbol.rule line type number) := by
  rw [readAlternative, symbol.words_text, cleanConstruction_symbol]
  rfl

/-- A bare text without a bar is one alternative. -/
theorem alternatives_eq_singleton {text : List Char} (hne : text ≠ []) (hbare : IsBare text)
    (hbar : '|' ∉ text) : alternatives text = [text] := by
  rw [alternatives, splitOn_eq, List.splitOn_eq_singleton hbar, List.map_singleton,
    trim_eq_self hbare, List.filter_cons_of_pos (by simpa using hne), List.filter_nil]

/-- Of a symbol with a bar, the front is an alternative that cannot be read. -/
theorem exists_alternatives_eq_cons (hbar : '|' ∈ symbol.text) :
    ∃ front others, alternatives symbol.text = front :: others ∧
      ∀ line type number, readAlternative line type front number = .error .unterminatedLiteral := by
  have hblank := symbol.isBlank_eq_false
  obtain ⟨front, back, htext, hfront⟩ := List.eq_append_cons_of_mem hbar
  cases symbol with
  | name text hname =>
    exact absurd hbar (notMem_of_forall (isIdentifierPart_of_isIdentifier hname) (by decide))
  | literal text hliteral _ =>
    change text = front ++ '|' :: back at htext
    have hne : front ≠ [] := by
      rintro rfl
      obtain ⟨_⟩ := hliteral
      cases htext
    have hfrontBlank : ∀ c ∈ front, isBlank c = false := fun c hc =>
      hblank c (htext ▸ List.mem_append_left _ hc)
    refine ⟨front, alternatives back, ?_, fun line type number => ?_⟩
    · have hsingle := alternatives_eq_singleton hne (isBare_of_forall hfrontBlank) hfront
      change alternatives text = [front] ++ alternatives back
      rw [htext, ← hsingle, alternatives, splitOn_append_cons, List.map_append, List.filter_append]
      rfl
    · have herase : Literal.erase? front = none := by
        refine hliteral.erase?_eq_none ⟨_, htext.symm⟩ hne fun heq => ?_
        simp [heq] at htext
      rw [readAlternative, words_eq_singleton hne hfrontBlank, cleanConstruction, herase]
      rfl

/-- The alternatives of a definition are those of the parts between its bars. -/
theorem alternatives_intercalate {parts : List (List Char)} (hne : parts ≠ []) :
    alternatives (['|'].intercalate parts) = parts.flatMap alternatives := by
  rw [alternatives, splitOn_intercalate_eq_flatMap '|' hne, List.map_flatMap, List.filter_flatMap]
  rfl

/-- Some alternatives are found in every symbol. -/
theorem alternatives_symbol_ne_nil (symbol : Symbol) : alternatives symbol.text ≠ [] := by
  by_cases hbar : '|' ∈ symbol.text
  · obtain ⟨front, others, halternatives, -⟩ := exists_alternatives_eq_cons hbar
    simp [halternatives]
  · simp [alternatives_eq_singleton symbol.ne_nil symbol.isBare hbar]

/-- The alternatives of a shorthand for symbols are those of the symbols, and they are read one by
one. -/
theorem readRules_of_writesSymbols {text : List Char} (line : LineNumber)
    (htype : isIdentifier type = true) (hlast : ∀ c ∈ type.getLast?, isDecimalDigit c = false)
    (hne : symbols ≠ []) (h : WritesSymbols type symbols text) :
    readRules line text = .ok ((symbols.flatMap (alternatives ·.text)).mapIdx fun i alternative =>
      readAlternative line type alternative (i + 1)) := by
  obtain @⟨typeText, parts, hline, htrim, hparts⟩ := h
  obtain ⟨space, hspace, hread⟩ := exists_readRules_eq_of_writesShorthand line hline
  have hpartsNe : parts ≠ [] := by
    rintro rfl
    exact hne (List.map_eq_nil_iff.mp hparts.symm)
  have halternatives : alternatives (trimEnd (['|'].intercalate parts)) =
      symbols.flatMap (alternatives ·.text) :=
    calc alternatives (trimEnd (['|'].intercalate parts)) = parts.flatMap alternatives := by
          rw [alternatives_trimEnd, alternatives_intercalate hpartsNe]
      _ = (parts.map trim).flatMap alternatives := by
          simp only [List.flatMap_map, alternatives_trim]
      _ = symbols.flatMap (alternatives ·.text) := by rw [hparts, List.flatMap_map]
  have hsome : symbols.flatMap (alternatives ·.text) ≠ [] := by
    obtain ⟨symbol, others, rfl⟩ := List.exists_cons_of_ne_nil hne
    simp [alternatives_symbol_ne_nil]
  -- The category is found between white space, in front of the first definition mark.
  have htypeText : trim (space ++ typeText) = type := by rw [trim_append_left hspace, htrim]
  have hclean : cleanType (space ++ typeText) = .ok type := by
    have hkept : dropTrailingDigits (type ++ []) = type :=
      dropTrailingDigits_append hlast (List.forall_mem_nil _)
    rw [List.append_nil] at hkept
    rw [cleanType_of_isIdentifier htype htypeText, hkept]
  have hcolon : ':' ∉ space ++ typeText := by
    refine notMem_of_notMem_trim (by decide) ?_
    rw [htypeText]
    exact notMem_of_forall (isIdentifierPart_of_isIdentifier htype) (by decide)
  have hmark : definitionMark.head? = some ':' := by decide
  rw [hread, readAlternatives_of_cutAt? (cutAt?_append hmark hcolon _) hclean, halternatives,
    if_neg (by simpa using hsome)]

/-- Symbols without bars are alternatives that can be read. -/
theorem flatMap_alternatives_symbols (hbar : ∀ symbol ∈ symbols, '|' ∉ symbol.text) :
    symbols.flatMap (alternatives ·.text) = symbols.map (·.text) := by
  rw [List.map_eq_flatMap]
  exact List.flatMap_congr fun symbol hsymbol =>
    alternatives_eq_singleton symbol.ne_nil symbol.isBare (hbar symbol hsymbol)

/-- Symbols are read as the rules that they stand for. -/
theorem mapIdx_readAlternative_symbols (line : LineNumber) (type : List Char)
    (symbols : List Symbol) :
    ((symbols.map (·.text)).mapIdx fun i alternative =>
      readAlternative line type alternative (i + 1)) =
        (symbols.mapIdx fun i symbol => symbol.rule line type (i + 1)).map .ok := by
  refine List.mapIdx_eq_iff.mpr fun i => ?_
  simp [readAlternative_symbol, Function.comp_def]

/-- The first fault among the rules of a line is that of the line. -/
theorem parseLine_of_readRules_fault {text : String} {rules : List Rule} {cause : Cause}
    {others : List (Except Cause Rule)}
    (h : readRules line text.toList = .ok (rules.map .ok ++ .error cause :: others)) :
    parseLine text line = .error { cause, text, line } := by
  let entries : List (Except Cause Rule) := rules.map .ok ++ .error cause :: others
  have hfault : entries.mapM id = .error cause := by
    refine mapM_eq_error_iff.mpr ⟨_, _, _, rfl, fun entry hentry => ?_, rfl⟩
    obtain ⟨rule, -, rfl⟩ := List.mem_map.mp hentry
    exact ⟨rule, rfl⟩
  rw [parseLine, h]
  change Except.mapError _ (entries.mapM id) = _
  rw [hfault]
  rfl

/-- A shorthand for symbols is refused if there is a bar in one of its literals, and else gives a
rule for each symbol. -/
theorem parseLine_of_writesSymbols {text : String} (htype : isIdentifier type = true)
    (hlast : ∀ c ∈ type.getLast?, isDecimalDigit c = false) (hne : symbols ≠ [])
    (h : WritesSymbols type symbols text.toList) :
    parseLine text line =
      if ∃ symbol ∈ symbols, '|' ∈ symbol.text then
        .error { cause := .unterminatedLiteral, text, line }
      else .ok (symbols.mapIdx fun i symbol => symbol.rule line type (i + 1)) := by
  have hread := readRules_of_writesSymbols line htype hlast hne h
  split
  next hsome =>
    -- In front of the first symbol with a bar, there are only alternatives that can be read.
    obtain ⟨symbol, hfind⟩ : ∃ symbol, symbols.find? ('|' ∈ ·.text) = some symbol := by
      simpa [← Option.isSome_iff_exists, List.find?_isSome] using hsome
    obtain ⟨hbar, before, after, rfl, hbefore⟩ := List.find?_eq_some_iff_append.mp hfind
    obtain ⟨front, others, halternatives, hfront⟩ :=
      exists_alternatives_eq_cons (of_decide_eq_true hbar)
    rw [List.flatMap_append, List.flatMap_cons, halternatives,
      flatMap_alternatives_symbols (by simpa using hbefore), List.mapIdx_append,
      mapIdx_readAlternative_symbols, List.cons_append, List.mapIdx_cons, hfront] at hread
    exact parseLine_of_readRules_fault hread
  next hnone =>
    refine parseLine_of_readRules ?_
    rw [hread, flatMap_alternatives_symbols (by simpa using hnone), mapIdx_readAlternative_symbols]

/-- A shorthand with literals that hold the marks of a declaration and an escaped quote. -/
theorem parseLine_marks :
    ∃ symbols : List Symbol,
      symbols.map Symbol.text = ["\"::=.;\"".toList, "Exp2".toList, "\"\\\"\"".toList] ∧
      WritesSymbols "Op".toList symbols "rules Op ::= \"::=.;\" | Exp2 | \"\\\"\" ;".toList ∧
      parseLine "rules Op ::= \"::=.;\" | Exp2 | \"\\\"\" ;" (.number 2) =
        .ok [.constructor ⟨"Op1", "Op", [], .number 2⟩,
          .constructor ⟨"Op_Exp2", "Op", ["Exp"], .number 2⟩,
          .constructor ⟨"Op3", "Op", [], .number 2⟩] := by
  have hmarks : Literal.IsLiteral ('"' :: "::=.;".toList ++ ['"']) :=
    .quoted (Literal.isBody_of_forall (by simp))
  have hquote : Literal.IsLiteral ('"' :: "\\\"".toList ++ ['"']) :=
    .quoted (.escaped (by decide) .nil)
  have hname : isIdentifier "Exp2".toList = true := by decide +kernel
  let symbols : List Symbol := [.literal _ hmarks (by simp [isBlank]), .name _ hname,
    .literal _ hquote (by simp [isBlank])]
  have hparts : [" \"::=.;\" ".toList, " Exp2 ".toList, " \"\\\"\" ".toList].map trim =
      ["\"::=.;\"".toList, "Exp2".toList, "\"\\\"\"".toList] := by decide +kernel
  have hline : WritesSymbols "Op".toList symbols
      "rules Op ::= \"::=.;\" | Exp2 | \"\\\"\" ;".toList :=
    @WritesSymbols.line _ _ _ "Op ".toList _
      (@WritesShorthand.line _ _ [] [' '] [] rfl (List.cons_ne_nil _ _) (by decide) rfl)
      (by decide +kernel) hparts
  have hlast : ∀ c ∈ "Op".toList.getLast?, isDecimalDigit c = false := by
    rintro c ⟨⟩
    decide
  have hnone : ¬∃ symbol ∈ symbols, '|' ∈ symbol.text := by simp [symbols, Symbol.text]
  refine ⟨symbols, rfl, hline, ?_⟩
  rw [parseLine_of_writesSymbols (by decide +kernel) hlast (List.cons_ne_nil _ _) hline,
    if_neg hnone]
  cbv

/-- A bar in a literal is taken for one between two alternatives, though the labelled rule that the
shorthand stands for can be read. -/
theorem bar_refused :
    ∃ symbols : List Symbol, symbols.map Symbol.text = ["\"|\"".toList] ∧
      WritesSymbols "Op".toList symbols "rules Op ::= \"|\" ;".toList ∧
      parseLine "rules Op ::= \"|\" ;" .unknown =
        .error { cause := .unterminatedLiteral, text := "rules Op ::= \"|\" ;" } ∧
      parseLine "Op1. Op ::= \"|\" ;" .unknown =
        .ok [.constructor ⟨"Op1", "Op", [], .unknown⟩] := by
  have hbar : Literal.IsLiteral ('"' :: ['|'] ++ ['"']) :=
    .quoted (Literal.isBody_of_forall (by simp))
  have htype : IsWordName "Op".toList :=
    ⟨by decide, List.all_eq_true.mp (by decide), by rintro c ⟨⟩; decide⟩
  let symbol : Symbol := .literal _ hbar (by simp [isBlank])
  have hparts : [" \"|\" ".toList].map trim = ["\"|\"".toList] := by decide +kernel
  have hline : WritesSymbols "Op".toList [symbol] "rules Op ::= \"|\" ;".toList :=
    @WritesSymbols.line _ _ _ "Op ".toList _
      (@WritesShorthand.line _ _ [] [' '] [] rfl (List.cons_ne_nil _ _) (by decide) rfl)
      (by decide +kernel) hparts
  refine ⟨[symbol], rfl, hline, by cbv, ?_⟩
  exact @parseLine_labelledRule_symbol .unknown _ "Op1".toList (by decide)
    (List.all_eq_true.mp (by decide)) (by decide) htype symbol

end Parser

end SyntaxBridge
