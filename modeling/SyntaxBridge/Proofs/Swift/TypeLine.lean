import SyntaxBridge.Proofs.Swift.Block
import SyntaxBridge.Proofs.Swift.Name
import SyntaxBridge.Proofs.Swift.TypeDeclaration
import SyntaxBridge.Proofs.Text.Identifier

/-!
# Lines that declare or extend types

A line declares or extends a type if the words it starts with say so (`typeLine?`), whatever it was
written for. The lines of a declaration of the abstract syntax that do are its first one, or all
that give names to list types, and they say what the declaration does
(`AbstractDeclaration.filterMap_typeLine?_lines`). So what a source of such declarations declares is
read off its text declaration by declaration (`typeLines_renderBlocks`).
-/

namespace SyntaxBridge.Swift

open AbstractDeclaration Text

/-! ## Lines -/

/-- What a line declares or extends. -/
structure TypeLine where
  /-- The word that says what is done. -/
  keyword : String
  /-- The name of the type. -/
  name : String
  /-- The word behind a colon at the end of the name. -/
  conformance : Option String := none
  deriving DecidableEq, Repr

/-- The words that declare or extend a type. -/
def typeKeywords : List String :=
  ["enum", "struct", "class", "actor", "protocol", "extension", "typealias"]

/-- The words that may stand before those. -/
def modifiers : List String :=
  ["public", "internal", "fileprivate", "private", "open", "indirect", "final"]

/-- What is declared or extended by words. A colon at the end of the name belongs to what
follows. -/
def TypeLine.ofWords (keyword name : String) (rest : List String) : TypeLine :=
  if name.toList.getLast? = some ':' then ⟨keyword, String.ofList name.toList.dropLast, rest.head?⟩
  else ⟨keyword, name, none⟩

/-- What a line declares or extends, if it does. -/
def typeLine? (line : List Char) : Option TypeLine :=
  match ((words line).map String.ofList).dropWhile modifiers.contains with
  | keyword :: name :: rest =>
    if typeKeywords.contains keyword then some (.ofWords keyword name rest) else none
  | _ => none

/-- What the lines of a text declare or extend, in order. -/
def typeLines (text : String) : List TypeLine :=
  (splitOn '\n' text.toList).filterMap typeLine?

/-! ## Names -/

/-- A name is an identifier once its brackets are left out. -/
def IsBracketedIdentifier (name : String) : Prop :=
  isIdentifier (name.toList.filter fun c => c ≠ '[' && c ≠ ']') = true

instance (name : String) : Decidable (IsBracketedIdentifier name) :=
  inferInstanceAs (Decidable (_ = _))

namespace IsBracketedIdentifier

variable {name : String}

/-- A name is not empty. -/
theorem ne_empty (h : IsBracketedIdentifier name) : name ≠ "" := by
  rintro rfl
  cases h

/-- A name holds no mark, that is no character that is neither part of an identifier nor a
bracket. -/
theorem notMem (h : IsBracketedIdentifier name) {mark : Char}
    (hmark : isIdentifierPart mark = false) (hbracket : mark ≠ '[' ∧ mark ≠ ']') :
    mark ∉ name.toList := by
  intro hmem
  have hkept : mark ∈ name.toList.filter fun c => c ≠ '[' && c ≠ ']' :=
    List.mem_filter.mpr ⟨hmem, by simpa using hbracket⟩
  rw [isIdentifierPart_of_isIdentifier h mark hkept] at hmark
  cases hmark

/-- A name holds no white space. -/
theorem isBlank_eq_false (h : IsBracketedIdentifier name) :
    ∀ c ∈ name.toList, isBlank c = false := by
  intro c hc
  rw [Bool.eq_false_iff]
  intro hblank
  refine h.notMem ?_ ⟨?_, ?_⟩ hc
  · rw [Bool.eq_false_iff]
    intro hpart
    rw [isBlank_eq_false_of_isIdentifierPart hpart] at hblank
    cases hblank
  · rintro rfl
    exact absurd hblank (by decide)
  · rintro rfl
    exact absurd hblank (by decide)

/-- A name is a word that does not end in a colon. -/
theorem words_toList (h : IsBracketedIdentifier name) :
    words name.toList = [name.toList] ∧ name.toList.getLast? ≠ some ':' := by
  refine ⟨words_eq_singleton (by simpa using h.ne_empty) h.isBlank_eq_false, fun hlast => ?_⟩
  exact h.notMem (by decide) (by decide) (List.mem_of_getLast? hlast)

/-- The type of the lists of a category has a name if the category has. -/
theorem list (h : IsBracketedIdentifier name) : IsBracketedIdentifier ("List" ++ name) := by
  have hstart : ("List" ++ name).toList.filter (fun c => c ≠ '[' && c ≠ ']') =
      "List".toList ++ name.toList.filter fun c => c ≠ '[' && c ≠ ']' := by
    rw [String.toList_append, List.filter_append]
    rfl
  rw [IsBracketedIdentifier, hstart]
  simp only [isIdentifier, String.reduceToList, List.cons_append, List.nil_append,
    List.all_cons, Bool.and_eq_true, List.all_eq_true]
  exact ⟨by decide, by decide, by decide, by decide, isIdentifierPart_of_isIdentifier h⟩

end IsBracketedIdentifier

/-! ## Lines that are put together -/

section Lines

variable {name : String} {front : List Char} (keyword : String)
  (hfront : ((words front).map String.ofList).dropWhile modifiers.contains = [keyword])

include hfront

/-- The words of a line behind the modifiers, if its front ends in the first of them. -/
theorem dropWhile_words_append (rest : List Char) :
    ((words (front ++ ' ' :: rest)).map String.ofList).dropWhile modifiers.contains =
      keyword :: (words rest).map String.ofList := by
  rw [words_append_cons (by decide), List.map_append, List.dropWhile_append, hfront]
  rfl

/-- A line declares nothing if the word at the end of its front does not. -/
theorem typeLine?_append_eq_none (hkeyword : keyword ∉ typeKeywords) (rest : List Char) :
    typeLine? (front ++ ' ' :: rest) = none := by
  rw [typeLine?, dropWhile_words_append keyword hfront]
  cases words rest with
  | nil => rfl
  | cons name others => simp [hkeyword]

/-- A line declares the type that is named behind its front. -/
theorem typeLine?_append (hkeyword : keyword ∈ typeKeywords) (hname : IsBracketedIdentifier name)
    (rest : List Char) :
    typeLine? (front ++ ' ' :: (name.toList ++ ' ' :: rest)) = some ⟨keyword, name, none⟩ := by
  obtain ⟨hword, hcolon⟩ := hname.words_toList
  rw [typeLine?, dropWhile_words_append keyword hfront, words_append_cons (by decide), hword]
  simp [hkeyword, TypeLine.ofWords, hcolon]

end Lines

variable {name : String}

/-- A line starts the enumeration that it names. -/
theorem typeLine?_enumeration (hname : IsBracketedIdentifier name) (boxed : Bool) :
    typeLine? ("public " ++ (if boxed then "indirect " else "") ++ "enum " ++ name ++
      " \x7b").toList = some ⟨"enum", name, none⟩ := by
  -- Whether the values are boxed is said by a modifier.
  have hfronts : ∀ front ∈ ["public enum".toList, "public indirect enum".toList],
      ((words front).map String.ofList).dropWhile modifiers.contains = ["enum"] := by decide
  have hline := fun front hfront => typeLine?_append "enum" (hfronts front hfront) (by decide)
    hname ['\x7b']
  cases boxed with
  | false => simpa using hline _ List.mem_cons_self
  | true => simpa using hline _ (List.mem_cons_of_mem _ List.mem_cons_self)

example : typeLine? "public indirect enum Exp \x7b".toList = some ⟨"enum", "Exp", none⟩ := by
  decide +kernel

/-- A line starts the structure that it names. -/
theorem typeLine?_structure (hname : IsBracketedIdentifier name) :
    typeLine? ("public struct " ++ name ++ " \x7b").toList = some ⟨"struct", name, none⟩ := by
  have hline : typeLine? ("public struct".toList ++ ' ' :: (name.toList ++ ' ' :: ['\x7b'])) =
      some ⟨"struct", name, none⟩ := typeLine?_append "struct" (by decide) (by decide) hname _
  simpa using hline

/-- A line extends the type that is named before a colon, to conform to what is named behind it. -/
theorem typeLine?_extension (hname : IsBracketedIdentifier name) {conformance back : String}
    (hback : back.toList = ':' :: ' ' :: (conformance.toList ++ [' ', '\x7b']))
    (hconformance : words conformance.toList = [conformance.toList]) :
    typeLine? ("extension " ++ name ++ back).toList =
      some ⟨"extension", name, some conformance⟩ := by
  have hline : ("extension " ++ name ++ back).toList = "extension".toList ++
      ' ' :: (name.toList ++ [':'] ++ ' ' :: (conformance.toList ++ ' ' :: ['\x7b'])) := by
    simp [hback]
  have hword : words (name.toList ++ [':']) = [name.toList ++ [':']] := by
    refine words_eq_singleton (by simp) (List.forall_mem_append.mpr ⟨hname.isBlank_eq_false, ?_⟩)
    exact List.forall_mem_singleton.mpr (by decide)
  have hspace : isBlank ' ' = true := by decide
  have hkeyword : "extension" ∈ typeKeywords := by decide
  rw [hline, typeLine?, dropWhile_words_append "extension" (by decide), words_append_cons hspace,
    words_append_cons hspace, hword, hconformance]
  simp [hkeyword, TypeLine.ofWords]

/-- A line names the lists of a category. -/
theorem typeLine?_listNameLine (hname : IsBracketedIdentifier name) :
    typeLine? (listNameLine name).toList = some ⟨"typealias", "List" ++ name, none⟩ := by
  have hline (list type : String) : ("public typealias " ++ list ++ " = [" ++ type ++ "]").toList =
      "public typealias".toList ++
        ' ' :: (list.toList ++ ' ' :: ("= [".toList ++ type.toList ++ [']'])) := by
    simp
  unfold listNameLine
  rw [listName_listOf hname.ne_empty, hline]
  exact typeLine?_append "typealias" (by decide) (by decide) hname.list _

/-! ## Declarations -/

/-- What the lines of a declaration declare or extend. -/
def AbstractDeclaration.declared : AbstractDeclaration → List TypeLine
  | foundation | heading _ => []
  | enumeration name .. => [⟨"enum", name, none⟩]
  | listNames categories => categories.map fun category => ⟨"typealias", "List" ++ category, none⟩
  | word name => [⟨"struct", name, none⟩]
  | printing => [⟨"protocol", printingProtocol, none⟩]
  | defaultPrinting => [⟨"extension", printingProtocol, none⟩]
  | printable name _ => [⟨"extension", name, some printingProtocol⟩]
  | description name => [⟨"extension", name, some "CustomStringConvertible"⟩]
  | equality name => [⟨"extension", name, some "Equatable"⟩]
  | hashing name => [⟨"extension", name, some "Hashable"⟩]

/-- The types that a declaration names. -/
def AbstractDeclaration.typeNames : AbstractDeclaration → List String
  | foundation | heading _ | printing | defaultPrinting => []
  | enumeration name .. | word name | printable name _ | description name | equality name
  | hashing name => [name]
  | listNames categories => categories

/-- No case of an enumeration declares a type. -/
theorem filterMap_typeLine?_caseLines (cases : List EnumCase) (extraCases : List String) :
    (caseLines cases extraCases).filterMap (typeLine? ·.toList) = [] := by
  refine List.filterMap_eq_nil_iff.mpr (forall_mem_caseLines ?_ (by decide) _ _)
  intro line h
  obtain ⟨back, rfl⟩ := startsWith_iff_exists_append.mp h
  have hline : ("case " ++ back).toList = "case".toList ++ ' ' :: back.toList := by simp
  rw [hline]
  exact typeLine?_append_eq_none "case" (by decide) (by decide) _

/-- A declaration says in its first line alone what it declares. -/
theorem filterMap_typeLine?_cons {head : String} {body : List String} {line : TypeLine}
    (hhead : typeLine? head.toList = some line)
    (hbody : body.filterMap (typeLine? ·.toList) = []) :
    (head :: body).filterMap (typeLine? ·.toList) = [line] := by
  rw [List.filterMap_cons]
  simp only [hhead, hbody]

/-- The lines of a declaration declare or extend what it says. -/
theorem AbstractDeclaration.filterMap_typeLine?_lines {declaration : AbstractDeclaration}
    (h : ∀ name ∈ declaration.typeNames, IsBracketedIdentifier name) :
    declaration.lines.filterMap (typeLine? ·.toList) = declaration.declared := by
  cases declaration with
  | foundation | printing | defaultPrinting => decide +kernel
  | heading title =>
    have hline : typeLine? ("//MARK:-".toList ++ ' ' :: title.toList) = none :=
      typeLine?_append_eq_none "//MARK:-" (by decide) (by decide) _
    simpa [lines, declared] using hline
  | enumeration name boxed cases extraCases =>
    have hhead := typeLine?_enumeration (h name List.mem_cons_self) boxed
    have hend : ["\x7d"].filterMap (typeLine? ·.toList) = [] := by decide
    rw [lines, List.append_assoc, List.singleton_append]
    refine filterMap_typeLine?_cons hhead ?_
    rw [List.filterMap_append, filterMap_typeLine?_caseLines, hend, List.append_nil]
  | listNames categories =>
    rw [lines, declared, List.filterMap_map, ← List.filterMap_eq_map]
    refine List.filterMap_congr fun category hcategory => ?_
    rw [Function.comp_apply, Function.comp_apply, typeLine?_listNameLine (h category hcategory)]
  | word name =>
    have hhead := typeLine?_structure (h name List.mem_cons_self)
    exact filterMap_typeLine?_cons hhead (by decide +kernel)
  | printable name isToken =>
    have hhead : typeLine? ("extension " ++ name ++ (": " ++ printingProtocol ++ " \x7b")).toList =
        some ⟨"extension", name, some printingProtocol⟩ :=
      typeLine?_extension (h name List.mem_cons_self) (by decide) (by decide +kernel)
    rw [← String.append_assoc, ← String.append_assoc] at hhead
    exact filterMap_typeLine?_cons hhead (by cases isToken <;> decide +kernel)
  | description name =>
    have hhead : typeLine? ("extension " ++ name ++ ": CustomStringConvertible \x7b").toList =
        some ⟨"extension", name, some "CustomStringConvertible"⟩ :=
      typeLine?_extension (h name List.mem_cons_self) (by decide) (by decide +kernel)
    exact filterMap_typeLine?_cons hhead (by decide +kernel)
  | equality name =>
    have hhead : typeLine? ("extension " ++ name ++ ": Equatable \x7b").toList =
        some ⟨"extension", name, some "Equatable"⟩ :=
      typeLine?_extension (h name List.mem_cons_self) (by decide) (by decide +kernel)
    -- The name stands in another line as well, which is that of a function.
    have hfunction : typeLine? ("public static func ==(lhs: " ++ name ++ ", rhs: " ++ name ++
        ") -> Bool \x7b").toList = none := by
      have hline (rest : List Char) : typeLine? ("public static".toList ++ ' ' :: rest) = none :=
        typeLine?_append_eq_none "static" (by decide) (by decide) rest
      simpa using hline _
    have hrest : ["return lhs.value == rhs.value", "\x7d", "\x7d"].filterMap (typeLine? ·.toList) =
        [] := by decide +kernel
    refine filterMap_typeLine?_cons hhead ?_
    rw [List.filterMap_cons]
    simp only [hfunction, hrest]
  | hashing name =>
    have hhead : typeLine? ("extension " ++ name ++ ": Hashable \x7b").toList =
        some ⟨"extension", name, some "Hashable"⟩ :=
      typeLine?_extension (h name List.mem_cons_self) (by decide) (by decide +kernel)
    exact filterMap_typeLine?_cons hhead (by decide +kernel)

/-! ## Sources -/

/-- What a source of blocks declares is what the lines of its blocks do. -/
theorem typeLines_renderBlocks {blocks : List (List String)}
    (h : ∀ block ∈ blocks, IsWritten block) :
    typeLines (renderBlocks blocks) = blocks.flatMap (·.filterMap (typeLine? ·.toList)) :=
  filterMap_splitOn_renderBlocks (by decide) h

end SyntaxBridge.Swift
