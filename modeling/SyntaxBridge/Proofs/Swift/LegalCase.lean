import SyntaxBridge.Proofs.Swift.CaseName

/-!
# Names of cases are legal

A label of letters, digits and underscores within ASCII, of which the first that is no underscore is
a letter, gives a case that can be declared: an identifier that is no keyword and does not start
with a capital letter, or a keyword between backquotes (`IsLegalCase`). Dropping the name of the
category and then an underscore leaves such a text again (`IsWordLabel.bareCaseName`), so neither
uncovers a digit or nothing at all.

A label that starts with the name of its category gives the case of what stands behind it, however
the name is capitalised (`namesLegalCase`).
-/

namespace SyntaxBridge.Swift

open Text (isAsciiWordChar forall_ascii lower_of_ascii)

/-- A text starts with a letter within ASCII, perhaps after underscores. -/
def LeadsToLetter (text : List Char) : Prop :=
  ∃ gap rest, text = gap ++ rest ∧ (∀ c ∈ gap, c = '_') ∧ StartsWithLetter rest

/-- A text of letters, digits and underscores within ASCII, of which the first that is no underscore
is a letter. -/
structure IsWordLabel (text : List Char) : Prop where
  isWord : ∀ c ∈ text, isAsciiWordChar c = true
  leadsToLetter : LeadsToLetter text

/-- The names that a case can be declared by. -/
inductive IsLegalCase : String → Prop
  /-- A keyword between backquotes. -/
  | escaped {word : String} (hword : word ∈ keywords) : IsLegalCase (escape word)
  /-- An identifier that is no keyword and does not start with a capital letter. -/
  | plain {name : String} (hname : IsAsciiIdentifier name) (hkeyword : name ∉ keywords)
    (hcapital : ∀ c ∈ name.toList.head?, c.isUpper = false) : IsLegalCase name

/-- Two texts are the same in any mix of cases. -/
def IsCasingOf (text name : String) : Prop :=
  text.toList.map Char.toLower = name.toList.map Char.toLower

/-- A label is the name of its category, in any mix of cases, and a suffix that leads to a
letter. -/
def StartsWithName (type label suffix : String) : Prop :=
  ∃ front, label = front ++ suffix ∧ IsCasingOf front type ∧ LeadsToLetter suffix.toList

/-- What is known about the case that a label gives. -/
structure NamesLegalCase (type label : String) : Prop where
  /-- The case can be declared. -/
  legal : IsLegalCase (caseName type label)
  /-- If the label starts with the name of its category, another mix of cases in that name gives the
  same case. -/
  eq_of_casing : ∀ suffix other, StartsWithName type label suffix → IsCasingOf other type →
    caseName type (other ++ suffix) = caseName type label
  /-- It is the case of the suffix alone, unless that starts with the name again. -/
  eq_suffix : ∀ suffix, StartsWithName type label suffix →
    (∀ rest, ¬StartsWithName type suffix rest) → caseName type label = caseName type suffix

variable {text gap rest : List Char} {type label suffix : String}

/-! ## Legal names -/

namespace IsWordLabel

/-- The characters of a label are within ASCII. -/
theorem ascii (h : IsWordLabel text) : ∀ c ∈ text, c.toNat < 128 :=
  fun c hc => Text.toNat_lt_of_isAsciiWordChar (h.isWord c hc)

/-- What is left of a label behind the name of its category is like a label. -/
theorem dropTypeName (h : IsWordLabel text) (type : List Char) :
    IsWordLabel (dropTypeName type text) := by
  by_cases hrepeats : ∃ gap rest, Repeats type text gap rest
  · obtain ⟨gap, rest, hrepeats⟩ := hrepeats
    rw [dropTypeName_of_repeats h.ascii hrepeats]
    obtain ⟨front, rfl, -, hgap, hrest⟩ := hrepeats
    refine ⟨fun c hc => h.isWord c ?_, gap, rest, rfl, hgap, hrest⟩
    rw [List.append_assoc]
    exact List.mem_append_right front hc
  · rw [dropTypeName_of_not_repeats h.ascii hrepeats]
    exact h

/-- So is what is left of it without an underscore. -/
theorem dropUnderscore (h : IsWordLabel text) : IsWordLabel (dropUnderscore text) := by
  obtain ⟨hword, gap, rest, rfl, hgap, hrest⟩ := h
  rw [dropUnderscore_append hgap hrest]
  refine ⟨fun c hc => hword c ?_, gap.drop 1, rest, rfl, ?_, hrest⟩
  · exact List.mem_append.mpr ((List.mem_append.mp hc).imp_left List.mem_of_mem_drop)
  · exact fun c hc => hgap c (List.mem_of_mem_drop hc)

/-- A label starts with a letter or an underscore. -/
theorem exists_eq_cons (h : IsWordLabel text) :
    ∃ c cs, text = c :: cs ∧ (c.isAlpha || c == '_') = true := by
  obtain ⟨-, gap, rest, rfl, hgap, d, ds, rfl, hletter⟩ := h
  cases gap with
  | nil => exact ⟨d, ds, rfl, by rw [hletter, Bool.true_or]⟩
  | cons c gap =>
    obtain rfl := hgap c List.mem_cons_self
    exact ⟨'_', gap ++ d :: ds, rfl, by decide⟩

/-- A label in lower case is an identifier that does not start with a capital letter. -/
theorem lowerFirst (h : IsWordLabel text) :
    IsAsciiIdentifier (String.ofList (Text.lowerFirst text)) ∧
      ∀ c ∈ (Text.lowerFirst text).head?, c.isUpper = false := by
  obtain ⟨c, cs, rfl, hfirst⟩ := h.exists_eq_cons
  have hascii : c.toNat < 128 := h.ascii c List.mem_cons_self
  rw [Text.lowerFirst, Text.lowerChar_of_ascii hascii, List.singleton_append]
  constructor
  · have hlower : (c.isAlpha || c == '_') = true →
        (c.toLower.isAlpha || c.toLower == '_') = true :=
      forall_ascii (P := fun c => (c.isAlpha || c == '_') = true →
        (c.toLower.isAlpha || c.toLower == '_') = true) (by decide) hascii
    refine ⟨c.toLower, cs, String.toList_ofList, hlower hfirst, ?_⟩
    exact List.all_eq_true.mpr fun d hd => h.isWord d (List.mem_cons_of_mem c hd)
  · intro d hd
    obtain rfl : c.toLower = d := Option.some.inj hd
    exact forall_ascii (P := fun c => c.toLower.isUpper = false) (by decide) hascii

/-- The case of a label can be declared, whatever its category is called. -/
theorem isLegalCase_caseName (h : IsWordLabel label.toList) (type : String) :
    IsLegalCase (caseName type label) := by
  -- The label keeps its form through all steps, so the last one gives an identifier.
  obtain ⟨hname, hcapital⟩ := (h.dropTypeName type.toList).dropUnderscore.lowerFirst
  unfold caseName
  dsimp only
  split
  next hkeyword => exact .escaped (List.contains_iff_mem.mp hkeyword)
  next hkeyword =>
    refine .plain hname (fun hmem => hkeyword (List.contains_iff_mem.mpr hmem)) ?_
    rwa [String.toList_ofList]

end IsWordLabel

/-! ## Labels that start with the name of their category -/

/-- A text that is another in any mix of cases is within ASCII if that is. -/
theorem IsCasingOf.ascii {front : String} (h : IsCasingOf front type)
    (htype : ∀ c ∈ type.toList, c.toNat < 128) : ∀ c ∈ front.toList, c.toNat < 128 := by
  intro c hc
  have hlower : c.toLower ∈ type.toList.map Char.toLower := by
    rw [← h]
    exact List.mem_map_of_mem hc
  obtain ⟨d, hd, heq⟩ := List.mem_map.mp hlower
  have hascii : c.toLower.toNat < 128 := heq ▸ ascii_toLower d (htype d hd)
  -- Beyond ASCII a character would not be lowered.
  by_contra hbeyond
  have hself : c.toLower = c := by
    unfold Char.toLower
    split
    next hrange =>
      exfalso
      apply hbeyond
      simp only [UInt32.le_iff_toNat_le] at hrange
      show c.val.toNat < 128
      have : 'Z'.val.toNat = 90 := rfl
      omega
    next => rfl
  rw [hself] at hascii
  exact hbeyond hascii

/-- A label that starts with the name of its category repeats it, and there is no other way to do
so. -/
theorem startsWithName_iff (htype : ∀ c ∈ type.toList, c.toNat < 128)
    (hlabel : ∀ c ∈ label.toList, c.toNat < 128) :
    StartsWithName type label suffix ↔
      ∃ gap rest, suffix.toList = gap ++ rest ∧ Repeats type.toList label.toList gap rest := by
  constructor
  · rintro ⟨front, rfl, hfront, gap, rest, hsuffix, hgap, hrest⟩
    refine ⟨gap, rest, hsuffix, front.toList, ?_, ?_, hgap, hrest⟩
    · rw [String.toList_append, hsuffix, List.append_assoc]
    · rw [lower_of_ascii (hfront.ascii htype), lower_of_ascii htype]
      exact hfront
  · rintro ⟨gap, rest, hsuffix, front, hlabelEq, hfront, hgap, hrest⟩
    have hfrontAscii : ∀ c ∈ front, c.toNat < 128 := by
      intro c hc
      apply hlabel
      rw [hlabelEq, List.append_assoc]
      exact List.mem_append_left _ hc
    rw [lower_of_ascii hfrontAscii, lower_of_ascii htype] at hfront
    refine ⟨String.ofList front, ?_, ?_, gap, rest, hsuffix, hgap, hrest⟩
    · apply String.toList_inj.mp
      rw [String.toList_append, String.toList_ofList, hlabelEq, hsuffix, List.append_assoc]
    · rw [IsCasingOf, String.toList_ofList, hfront]

/-- What stands behind the name of the category is within ASCII if the label is. -/
theorem StartsWithName.ascii (h : StartsWithName type label suffix)
    (hlabel : ∀ c ∈ label.toList, c.toNat < 128) : ∀ c ∈ suffix.toList, c.toNat < 128 := by
  obtain ⟨front, rfl, -, -⟩ := h
  intro c hc
  apply hlabel
  rw [String.toList_append]
  exact List.mem_append_right _ hc

/-- A label that starts with the name of its category loses it. -/
theorem StartsWithName.dropTypeName_eq (h : StartsWithName type label suffix)
    (htype : ∀ c ∈ type.toList, c.toNat < 128) (hlabel : ∀ c ∈ label.toList, c.toNat < 128) :
    dropTypeName type.toList label.toList = suffix.toList := by
  obtain ⟨gap, rest, hsuffix, hrepeats⟩ := (startsWithName_iff htype hlabel).mp h
  rw [dropTypeName_of_repeats hlabel hrepeats, hsuffix]

/-- Labels give the same case if the same is left of them behind the name of their category. -/
theorem caseName_congr {a b : String}
    (h : dropTypeName type.toList a.toList = dropTypeName type.toList b.toList) :
    caseName type a = caseName type b := by
  unfold caseName bareCaseName
  rw [h]

/-- A label of letters, digits and underscores, of which the first that is no underscore is a
letter, gives a legal case, which depends only on what stands behind the name of the category. -/
theorem namesLegalCase (htype : IsAsciiIdentifier type) (hlabel : IsWordLabel label.toList) :
    NamesLegalCase type label where
  legal := hlabel.isLegalCase_caseName type
  eq_of_casing := by
    intro suffix other hstart hother
    have hstart' : StartsWithName type (other ++ suffix) suffix := by
      obtain ⟨-, -, -, hsuffix⟩ := hstart
      exact ⟨other, rfl, hother, hsuffix⟩
    have hlabel' : ∀ c ∈ (other ++ suffix).toList, c.toNat < 128 := by
      rw [String.toList_append]
      exact List.forall_mem_append.mpr ⟨hother.ascii htype.ascii, hstart.ascii hlabel.ascii⟩
    apply caseName_congr
    rw [hstart.dropTypeName_eq htype.ascii hlabel.ascii, hstart'.dropTypeName_eq htype.ascii hlabel']
  eq_suffix := by
    intro suffix hstart hnone
    have hsuffix : ∀ c ∈ suffix.toList, c.toNat < 128 := hstart.ascii hlabel.ascii
    have hnot : ¬∃ gap rest, Repeats type.toList suffix.toList gap rest := by
      rintro ⟨gap, rest, hrepeats⟩
      apply hnone (String.ofList (gap ++ rest))
      exact (startsWithName_iff htype.ascii hsuffix).mpr
        ⟨gap, rest, String.toList_ofList, hrepeats⟩
    apply caseName_congr
    rw [hstart.dropTypeName_eq htype.ascii hlabel.ascii, dropTypeName_of_not_repeats hsuffix hnot]

/-- The suffix behind the name is a keyword here, and is declared between backquotes. -/
theorem namesLegalCase_keyword :
    IsAsciiIdentifier "Exp" ∧ IsWordLabel "EXP_let".toList ∧ NamesLegalCase "Exp" "EXP_let" ∧
      caseName "Exp" "EXP_let" = escape "let" := by
  have htype : IsAsciiIdentifier "Exp" := ⟨'E', ['x', 'p'], rfl, by decide, by decide⟩
  have hlabel : IsWordLabel "EXP_let".toList :=
    ⟨List.all_eq_true.mp (by decide), [], "EXP_let".toList, rfl, List.forall_mem_nil _,
      'E', "XP_let".toList, rfl, by decide⟩
  exact ⟨htype, hlabel, namesLegalCase htype hlabel, by decide +kernel⟩

end SyntaxBridge.Swift
