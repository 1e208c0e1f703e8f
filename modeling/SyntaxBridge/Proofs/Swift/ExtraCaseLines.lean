import SyntaxBridge.Proofs.Grammar.ExtraCases
import SyntaxBridge.Proofs.Swift.AbstractSyntax
import SyntaxBridge.Proofs.Swift.Block
import SyntaxBridge.Proofs.Text.Splitting

/-!
# The lines of cases added by hand

Behind the cases of its alternatives, an enumeration has the cases that were added by hand: each
text that gives a line (`GivesCaseLine`) gives it once, where it comes first, and not at all if an
alternative has that line (`extraCaseLines_eq`). So adding the same cases again makes no difference
to the source (`exists_addExtraCases_again`).
-/

namespace SyntaxBridge.Swift

open AbstractDeclaration Text

variable {rules : List Rule} {extra : ExtraCases} {policy : BoxPolicy} {grammar : Grammar}
  {group : Group} {alternatives : List Constructor}

/-! ## Lines without duplicates -/

/-- A text gives the line of a case: the white space around it goes, and the word `case` comes in
front unless it is there. -/
inductive GivesCaseLine (text : String) : String → Prop
  /-- The text is a case. -/
  | whole {before bare after : List Char} (htext : text.toList = before ++ bare ++ after)
    (hbefore : allBlank before = true) (hbare : IsBare bare) (hafter : allBlank after = true)
    (hcase : "case ".toList <+: bare) : GivesCaseLine text (String.ofList bare)
  /-- The text is what a case declares. -/
  | declared {before bare after : List Char} (htext : text.toList = before ++ bare ++ after)
    (hbefore : allBlank before = true) (hbare : IsBare bare) (hafter : allBlank after = true)
    (hcase : ¬ "case ".toList <+: bare) : GivesCaseLine text ("case " ++ String.ofList bare)

/-- Every text gives one line. -/
theorem givesCaseLine_iff {text line : String} :
    GivesCaseLine text line ↔ line = extraCaseLine text := by
  rw [extraCaseLine]
  constructor
  · rintro (⟨htext, hbefore, hbare, hafter, hcase⟩ | ⟨htext, hbefore, hbare, hafter, hcase⟩)
    · rw [htext, trim_append hbefore hbare hafter, if_pos (List.isPrefixOf_iff_prefix.mpr hcase)]
    · rw [htext, trim_append hbefore hbare hafter, if_neg (mt List.isPrefixOf_iff_prefix.mp hcase)]
  · rintro rfl
    obtain ⟨before, after, hbefore, hafter, htext⟩ := exists_eq_append_trim text.toList
    have hbare := isBare_trim text.toList
    split
    next hcase =>
      exact .whole htext hbefore hbare hafter (List.isPrefixOf_iff_prefix.mp hcase)
    next hcase =>
      exact .declared htext hbefore hbare hafter (mt List.isPrefixOf_iff_prefix.mpr hcase)

/-- The lines that are added are those that the texts give, without the lines that are already there
and without repetitions. -/
theorem extraCaseLines_eq (taken texts : List String) :
    extraCaseLines taken texts =
      ((texts.map extraCaseLine).filter (!taken.contains ·)).eraseDups := by
  -- A line that is added is taken from then on, so that it is not added again.
  induction texts generalizing taken with
  | nil => rfl
  | cons text texts ih =>
    rw [extraCaseLines, List.map_cons, List.filter_cons]
    cases htaken : taken.contains (extraCaseLine text) with
    | true => exact ih taken
    | false =>
      rw [if_neg Bool.false_ne_true, Bool.not_false, if_pos rfl, ih, List.eraseDups_cons,
        List.filter_filter]
      refine congrArg (extraCaseLine text :: List.eraseDups ·) (List.filter_congr fun line _ => ?_)
      rw [List.contains_cons, Bool.not_or]

/-- Giving the same texts again adds no line. -/
theorem caseLines_append_self (cases : List EnumCase) (texts others : List String) :
    caseLines cases (texts ++ others ++ others) = caseLines cases (texts ++ others) := by
  have hempty : (texts ++ others ++ others).isEmpty = (texts ++ others).isEmpty := by
    cases texts <;> cases others <;> rfl
  rw [caseLines, caseLines, hempty, extraCaseLines_eq, extraCaseLines_eq, List.map_append,
    List.filter_append, eraseDups_append_of_subset]
  -- The lines of the texts that come again are among those in front of them.
  rw [List.map_append, List.filter_append]
  exact List.subset_append_right _ _

/-! ## The enumeration of a category -/

/-- The first line of the enumeration of a category. -/
def headLine (group : Group) : String :=
  "public " ++ (if group.boxed then "indirect " else "") ++ "enum " ++ group.name ++ " \x7b"

/-- The lines of the cases that the alternatives of a category declare. -/
def declaredLines (category : String) (alternatives : List Constructor) : List String :=
  alternatives.map fun rule => (EnumCase.ofConstructor category rule).line

/-- The one enumeration of a category in the abstract syntax of a grammar has the given lines, which
are a block of the source. -/
def EnumeratesBy (grammar : Grammar) (category : String) (lines : List String) : Prop :=
  ((abstractSyntax grammar).filter (·.enumerates category)).map AbstractDeclaration.lines =
      [lines] ∧
    HoldsBlock (abstractSyntaxSource grammar) lines

/-- The lines between the braces, with the comment only if cases were added by hand. -/
theorem caseLines_eq (category : String) (alternatives : List Constructor) (texts : List String) :
    caseLines (alternatives.map (EnumCase.ofConstructor category)) texts =
      declaredLines category alternatives ++
        if texts = [] then []
        else "//additional cases" :: ((texts.map extraCaseLine).filter
          (· ∉ declaredLines category alternatives)).eraseDups := by
  have hdeclared : (alternatives.map (EnumCase.ofConstructor category)).map EnumCase.line =
      declaredLines category alternatives := List.map_map
  rw [caseLines, hdeclared]
  cases texts with
  | nil => exact (List.append_nil _).symm
  | cons text texts => simp [extraCaseLines_eq]

/-- The lines that declare a category with alternatives. -/
theorem lines_ofGroup (hmembers : group.members = .alternatives alternatives) :
    (ofGroup group).lines = headLine group ::
      caseLines (alternatives.map (EnumCase.ofConstructor group.name)) group.extraCases ++
        ["\x7d"] := by
  rw [ofGroup, hmembers]
  rfl

/-- The enumeration of a category with alternatives. -/
theorem enumeratesBy_of_analyze (h : analyze rules extra policy = .ok grammar)
    (hgroup : group ∈ grammar.groups) (hmembers : group.members = .alternatives alternatives) :
    EnumeratesBy grammar group.name (headLine group ::
      caseLines (alternatives.map (EnumCase.ofConstructor group.name)) group.extraCases ++
        ["\x7d"]) := by
  have htoken : group.isToken = false := by rw [Group.isToken, hmembers, Members.isToken]
  rw [← lines_ofGroup hmembers]
  refine ⟨?_, holdsBlock_of_mem (List.mem_map_of_mem (ofGroup_mem_abstractSyntax hgroup)) ?_⟩
  · rw [filter_enumerates_abstractSyntax h hgroup htoken, List.map_singleton]
  · rw [lines_ofGroup hmembers]
    exact List.getLast?_concat

/-- Without extra cases the analysis gives the same category, but for its cases added by hand. -/
theorem exists_mem_groups_of_analyze (h : analyze rules extra policy = .ok grammar)
    (hgroup : group ∈ grammar.groups) :
    ∃ plain, analyze rules [] policy = .ok plain ∧
      { group with extraCases := [] } ∈ plain.groups := by
  obtain ⟨groups, entrypoints, hgroups, -, hentrypoints, rfl⟩ := analyze_eq_ok_iff.mp h
  obtain ⟨source, hsource, rfl⟩ := List.mem_map.mp hgroup
  have hplain := analyze_eq_ok_iff.mpr
    ⟨groups, entrypoints, hgroups, List.forall_mem_nil _, hentrypoints, rfl⟩
  have hmem := List.mem_map_of_mem (f := fun group : Group =>
    group.addCases ((([] : ExtraCases).lookup group.name).getD [])) hsource
  have hnone : source.extraCases ++ [] = [] := extraCases_of_analyze hplain hmem
  refine ⟨_, hplain, ?_⟩
  rwa [Group.addCases, List.lookup_nil, Option.getD_none, hnone] at hmem

/-! ## Adding cases again -/

/-- The source depends on the names of the categories, on which of them are tokens, and on the lines
that declare them. -/
theorem abstractSyntaxSource_congr {groups : List Group} {f g : Group → Group}
    (hname : ∀ group, (f group).name = (g group).name)
    (htoken : ∀ group, (f group).isToken = (g group).isToken)
    (hlines : ∀ group, (ofGroup (f group)).lines = (ofGroup (g group)).lines) :
    abstractSyntaxSource { grammar with groups := groups.map f } =
      abstractSyntaxSource { grammar with groups := groups.map g } := by
  rw [abstractSyntaxSource, abstractSyntaxSource]
  refine congrArg renderBlocks ?_
  simp only [abstractSyntax, List.filter_map, List.isEmpty_map, List.map_append,
    apply_ite (List.map AbstractDeclaration.lines), List.map_cons, List.map_map, List.map_flatMap,
    List.flatMap_map, Function.comp_def, hname, htoken, hlines]

/-- A category to which the same cases are added again is declared by the same lines. -/
theorem lines_ofGroup_addCases (group : Group) (cases : List String) :
    (ofGroup ((group.addCases cases).addCases cases)).lines =
      (ofGroup (group.addCases cases)).lines := by
  cases hmembers : group.members with
  | token token => simp [ofGroup, Group.addCases, hmembers]
  | alternatives alternatives =>
    have honce : (group.addCases cases).members = .alternatives alternatives := hmembers
    have htwice : ((group.addCases cases).addCases cases).members = .alternatives alternatives :=
      hmembers
    rw [lines_ofGroup honce, lines_ofGroup htwice]
    exact congrArg (headLine group :: · ++ ["\x7d"])
      (caseLines_append_self _ group.extraCases cases)

/-- Adding the same cases again is possible, and makes no difference to the source. -/
theorem exists_addExtraCases_again {once : List Group}
    (h : addExtraCases grammar.groups extra = .ok once) :
    ∃ twice, addExtraCases once extra = .ok twice ∧
      abstractSyntaxSource { grammar with groups := twice } =
        abstractSyntaxSource { grammar with groups := once } := by
  obtain ⟨hcheck, rfl⟩ := addExtraCases_eq_ok_iff.mp h
  refine ⟨_, addExtraCases_eq_ok_iff.mpr ⟨fun entry hentry => ?_, rfl⟩, ?_⟩
  · rw [checkExtraTarget_map_addCases grammar.groups fun name => (extra.lookup name).getD []]
    exact hcheck entry hentry
  · rw [List.map_map]
    exact abstractSyntaxSource_congr (fun _ => rfl) (fun _ => rfl) fun group =>
      lines_ofGroup_addCases group _

/-! ## All cases -/

/-- The cases that were added by hand to the categories of a grammar have their lines behind those
of the alternatives. -/
structure ListsExtraCases (rules : List Rule) (policy : BoxPolicy) (grammar : Grammar) : Prop where
  /-- The enumeration of a category has the lines of its alternatives, which are those that it has
  without extra cases, and then each line that a case gives and no alternative has, where it comes
  first. -/
  lines_eq : ∀ group ∈ grammar.groups, group.isToken = false → group.extraCases ≠ [] →
    ∃ alternatives lines plain, group.rules = alternatives.map .constructor ∧
      List.Forall₂ GivesCaseLine group.extraCases lines ∧
      EnumeratesBy grammar group.name (headLine group :: declaredLines group.name alternatives ++
        "//additional cases" ::
          (lines.filter (· ∉ declaredLines group.name alternatives)).eraseDups ++ ["\x7d"]) ∧
      analyze rules [] policy = .ok plain ∧
      EnumeratesBy plain group.name
        (headLine group :: declaredLines group.name alternatives ++ ["\x7d"])
  /-- Where cases can be added, they can be added again, which makes no difference to the source. -/
  twice_eq : ∀ (extra : ExtraCases) (once : List Group),
    addExtraCases grammar.groups extra = .ok once →
      ∃ twice, addExtraCases once extra = .ok twice ∧
        abstractSyntaxSource { grammar with groups := twice } =
          abstractSyntaxSource { grammar with groups := once }

/-- Every analysed grammar lists the cases that were added by hand. -/
theorem listsExtraCases_of_analyze (h : analyze rules extra policy = .ok grammar) :
    ListsExtraCases rules policy grammar where
  lines_eq group hgroup htoken hextra := by
    obtain ⟨alternatives, hmembers⟩ := Group.exists_alternatives htoken
    obtain ⟨plain, hplain, hbare⟩ := exists_mem_groups_of_analyze h hgroup
    refine ⟨alternatives, group.extraCases.map extraCaseLine, plain, ?_, ?_, ?_, hplain, ?_⟩
    · rw [Group.rules, hmembers, Members.rules]
    · rw [List.forall₂_map_right_iff, List.forall₂_same]
      exact fun text _ => givesCaseLine_iff.mpr rfl
    · have hlines := enumeratesBy_of_analyze h hgroup hmembers
      rwa [caseLines_eq, if_neg hextra] at hlines
    · have hlines := enumeratesBy_of_analyze hplain hbare hmembers
      rwa [caseLines_eq, if_pos rfl, List.append_nil] at hlines
  twice_eq _ _ := exists_addExtraCases_again

/-- A case that is there already, one that is given twice in two spellings, and a new one. -/
theorem listsExtraCases_expression :
    ∃ grammar, analyze [.constructor ⟨"EVar", "Exp", ["Id"], .unknown⟩, .token ⟨"Id", .unknown⟩]
        [("Exp", ["eVar(Id)", " hole", "case hole ", "gap"])] .all = .ok grammar ∧
      ListsExtraCases grammar.rules .all grammar ∧
      ((abstractSyntax grammar).filter (·.enumerates "Exp")).map AbstractDeclaration.lines =
        [["public indirect enum Exp \x7b", "case eVar(Id)", "//additional cases", "case hole",
          "case gap", "\x7d"]] ∧
      (addExtraCases grammar.groups [("Exp", ["hole", "gap"])]).isOk = true := by
  have h : analyze [.constructor ⟨"EVar", "Exp", ["Id"], .unknown⟩, .token ⟨"Id", .unknown⟩]
      [("Exp", ["eVar(Id)", " hole", "case hole ", "gap"])] .all = .ok {
        rules := [.constructor ⟨"EVar", "Exp", ["Id"], .unknown⟩, .token ⟨"Id", .unknown⟩]
        groups := [⟨"Exp", .alternatives [⟨"EVar", "Exp", ["Id"], .unknown⟩], true,
            ["eVar(Id)", " hole", "case hole ", "gap"]⟩,
          ⟨"Id", .token ⟨"Id", .unknown⟩, false, []⟩]
        listTypes := []
        entrypoints := ["Exp"] } := by cbv
  exact ⟨_, h, listsExtraCases_of_analyze h, by decide +kernel, by decide +kernel⟩

end SyntaxBridge.Swift
