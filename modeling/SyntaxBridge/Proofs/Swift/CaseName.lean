import SyntaxBridge.Proofs.Swift.NameText
import SyntaxBridge.Proofs.Text.Case

/-!
# Labels that give the same case

The name of a case is made from what the label of an alternative says beside the name of its
category, its *stem* (`IsStem`): the category `Exp` leaves `Add` of each of the labels `ExpAdd`,
`exp_Add` and `Add`. The stem then starts in lower case. So labels that are different may give the
same case, and `caseName_eq_iff` says which do: those whose stems are the same but for the case of
their first letter (`Collide`). Escaping a keyword does not bring names together or apart.
-/

namespace SyntaxBridge.Swift

open Text (lower_of_ascii length_lower_of_ascii forall_ascii)

/-- A text starts with a letter within ASCII. -/
def StartsWithLetter (text : List Char) : Prop :=
  ∃ c cs, text = c :: cs ∧ c.isAlpha = true

/-- A label that is an identifier and starts with a letter. -/
structure IsCaseLabel (label : String) : Prop where
  isAsciiIdentifier : IsAsciiIdentifier label
  startsWithLetter : StartsWithLetter label.toList

/-- A label is the name of its category, in whatever case, with a rest behind it that starts with a
letter, perhaps after underscores. -/
def Repeats (type label gap rest : List Char) : Prop :=
  ∃ front, label = front ++ gap ++ rest ∧ Text.lower front = Text.lower type ∧
    (∀ c ∈ gap, c = '_') ∧ StartsWithLetter rest

/-- What a label says beside the name of its category. One of the underscores between the two goes
with the name of the category. -/
inductive IsStem (type label : List Char) : List Char → Prop
  /-- The label repeats the name of the category. -/
  | repeated {gap rest : List Char} (h : Repeats type label gap rest) :
    IsStem type label (gap.drop 1 ++ rest)
  /-- The label does not. -/
  | whole (h : ¬ ∃ gap rest, Repeats type label gap rest) : IsStem type label label

/-- Two texts are the same but for the case of their first characters. -/
def SameButCapital (s t : List Char) : Prop :=
  ∃ c d rest, s = c :: rest ∧ t = d :: rest ∧ c.toLower = d.toLower

/-- Two labels of a category say the same beside its name, but for the case of the first letter. -/
def Collide (type a b : String) : Prop :=
  ∃ s t, IsStem type.toList a.toList s ∧ IsStem type.toList b.toList t ∧ SameButCapital s t

variable {type label gap rest : List Char}

/-! ## Stems -/

/-- A letter is no underscore. -/
theorem ne_underscore_of_isAlpha {c : Char} (h : c.isAlpha = true) : c ≠ '_' := by
  rintro rfl
  exact absurd h (by decide)

/-- Lowering within ASCII stays there. -/
theorem ascii_toLower : ∀ c : Char, c.toNat < 128 → c.toLower.toNat < 128 :=
  fun _ => forall_ascii (P := fun c => c.toLower.toNat < 128) (by decide)

/-- A label that repeats the name of its category loses it. -/
theorem dropTypeName_of_repeats (hascii : ∀ c ∈ label, c.toNat < 128)
    (h : Repeats type label gap rest) : dropTypeName type label = gap ++ rest := by
  obtain ⟨front, rfl, hfront, hgap, hrest⟩ := h
  rw [List.append_assoc] at hascii ⊢
  have hlower : Text.lower front = front.map Char.toLower :=
    lower_of_ascii fun c hc => hascii c (List.mem_append_left _ hc)
  -- The name is as long as the text that repeats it, since its lower case form is within ASCII.
  have hlength : type.length = front.length := by
    have htype : (Text.lower type).length = type.length := by
      refine length_lower_of_ascii fun d hd => ?_
      rw [← hfront, hlower] at hd
      obtain ⟨c, hc, rfl⟩ := List.mem_map.mp hd
      exact ascii_toLower c (hascii c (List.mem_append_left _ hc))
    rw [← htype, ← hfront, hlower, List.length_map]
  have hprefix : (Text.lower type).isPrefixOf (Text.lower (front ++ (gap ++ rest))) = true := by
    rw [List.isPrefixOf_iff_prefix, lower_of_ascii hascii, ← hfront, hlower, List.map_append]
    exact List.prefix_append _ _
  obtain ⟨c, cs, rfl, hc⟩ := hrest
  have hletter : c.toNat < 128 := hascii c (by simp)
  have hskip : (gap ++ c :: cs).dropWhile (· == '_') = c :: cs := by
    rw [List.dropWhile_append_of_pos (by simpa using hgap),
      List.dropWhile_cons_of_neg (by simpa using ne_underscore_of_isAlpha hc)]
  have hlt : front.length < (front ++ (gap ++ c :: cs)).length := by
    simp only [List.length_append, List.length_cons]
    omega
  rw [dropTypeName, hlength, if_pos ⟨hlt, hprefix⟩, List.drop_left]
  dsimp only
  rw [hskip, List.head?_cons, Option.any_some, Text.isLetter_of_ascii hletter, if_pos hc]

/-- A label that does not repeat the name of its category stays as it is. -/
theorem dropTypeName_of_not_repeats (hascii : ∀ c ∈ label, c.toNat < 128)
    (h : ¬ ∃ gap rest, Repeats type label gap rest) : dropTypeName type label = label := by
  unfold dropTypeName
  dsimp only
  split_ifs with hname hletter
  · refine absurd ?_ h
    obtain ⟨-, hstart⟩ := hname
    rw [List.isPrefixOf_iff_prefix, lower_of_ascii hascii] at hstart
    have hlength : (Text.lower type).length = type.length := by
      refine length_lower_of_ascii fun d hd => ?_
      obtain ⟨c, hc, rfl⟩ := List.mem_map.mp (hstart.subset hd)
      exact ascii_toLower c (hascii c hc)
    -- The label is cut behind the name, and again behind the underscores that follow.
    refine ⟨(label.drop type.length).takeWhile (· == '_'),
      (label.drop type.length).dropWhile (· == '_'), label.take type.length, ?_, ?_, ?_, ?_⟩
    · rw [List.append_assoc, List.takeWhile_append_dropWhile, List.take_append_drop]
    · rw [lower_of_ascii fun c hc => hascii c (List.mem_of_mem_take hc), List.map_take,
        List.prefix_iff_eq_take.mp hstart, hlength]
    · intro c hc
      simpa using List.all_eq_true.mp List.all_takeWhile c hc
    · obtain ⟨c, cs, hrest⟩ : ∃ c cs,
          (label.drop type.length).dropWhile (· == '_') = c :: cs := by
        refine List.exists_cons_of_ne_nil fun hnil => ?_
        rw [hnil] at hletter
        cases hletter
      have hmem : c ∈ label :=
        (List.drop_subset _ _) ((List.dropWhile_subset _) (hrest ▸ List.mem_cons_self))
      rw [hrest, List.head?_cons, Option.any_some, Text.isLetter_of_ascii (hascii c hmem)] at hletter
      exact ⟨c, cs, hrest, hletter⟩
  · rfl
  · rfl

/-- A text that starts with a letter starts with no underscore. -/
theorem StartsWithLetter.dropUnderscore_eq (h : StartsWithLetter rest) :
    dropUnderscore rest = rest := by
  obtain ⟨c, cs, rfl, hc⟩ := h
  simp [dropUnderscore, ne_underscore_of_isAlpha hc]

/-- One underscore of several goes, and it does not go alone. -/
theorem dropUnderscore_append (hgap : ∀ c ∈ gap, c = '_') (hrest : StartsWithLetter rest) :
    dropUnderscore (gap ++ rest) = gap.drop 1 ++ rest := by
  cases gap with
  | nil => exact hrest.dropUnderscore_eq
  | cons first gap =>
    rw [List.forall_mem_cons] at hgap
    obtain ⟨rfl, -⟩ := hgap
    have hne : gap ++ rest ≠ [] := by
      obtain ⟨c, cs, rfl, -⟩ := hrest
      simp
    obtain ⟨c, cs, hcs⟩ := List.exists_cons_of_ne_nil hne
    rw [List.cons_append, List.drop_succ_cons, List.drop_zero, hcs]
    rfl

/-! ## Labels -/

variable {category a b : String}

namespace IsCaseLabel

theorem isNameText (h : IsCaseLabel a) : IsNameText a :=
  isNameText_of_isAsciiIdentifier h.isAsciiIdentifier

theorem ascii (h : IsCaseLabel a) : ∀ c ∈ a.toList, c.toNat < 128 :=
  fun c hc => toNat_lt_of_isNameChar (h.isNameText c hc)

/-- The stem of a label is what its case is made from. -/
theorem isStem_iff (h : IsCaseLabel a) {stem : List Char} :
    IsStem category.toList a.toList stem ↔
      stem = dropUnderscore (dropTypeName category.toList a.toList) := by
  -- Either way there is one stem, so it is enough to find it.
  by_cases hrepeats : ∃ gap rest, Repeats category.toList a.toList gap rest
  · have hstem {gap rest} (hrepeats : Repeats category.toList a.toList gap rest) :
        dropUnderscore (dropTypeName category.toList a.toList) = gap.drop 1 ++ rest := by
      obtain ⟨_, _, _, hgap, hrest⟩ := id hrepeats
      rw [dropTypeName_of_repeats h.ascii hrepeats, dropUnderscore_append hgap hrest]
    constructor
    · intro hisStem
      cases hisStem with
      | repeated hother => exact (hstem hother).symm
      | whole hnot => exact absurd hrepeats hnot
    · rintro rfl
      obtain ⟨gap, rest, hrepeats⟩ := hrepeats
      rw [hstem hrepeats]
      exact .repeated hrepeats
  · have hstem : dropUnderscore (dropTypeName category.toList a.toList) = a.toList := by
      rw [dropTypeName_of_not_repeats h.ascii hrepeats, h.startsWithLetter.dropUnderscore_eq]
    rw [hstem]
    constructor
    · intro hisStem
      cases hisStem with
      | repeated hother => exact absurd ⟨_, _, hother⟩ hrepeats
      | whole => rfl
    · rintro rfl
      exact .whole hrepeats

/-- A label says something beside the name of its category. -/
theorem stem_ne_nil (h : IsCaseLabel a) {stem : List Char}
    (hstem : IsStem category.toList a.toList stem) : stem ≠ [] := by
  cases hstem with
  | repeated hrepeats =>
    obtain ⟨_, _, _, _, c, cs, rfl, _⟩ := hrepeats
    simp
  | whole =>
    obtain ⟨c, cs, hlabel, _⟩ := h.startsWithLetter
    simp [hlabel]

/-- What it says is put together from its characters. -/
theorem stem_subset (h : IsCaseLabel a) {stem : List Char}
    (hstem : IsStem category.toList a.toList stem) : stem ⊆ a.toList := by
  rw [h.isStem_iff.mp hstem]
  exact subset_bareCaseName _ _

/-- A name that is not escaped holds no backquote. -/
theorem backquote_notMem_bareCaseName (h : IsCaseLabel a) :
    '`' ∉ bareCaseName category.toList a.toList := by
  have hsubset := subset_bareCaseName category.toList a.toList
  have hlabel : '`' ∉ a.toList := h.isAsciiIdentifier.notMem (by decide)
  rw [bareCaseName]
  cases hstem : dropUnderscore (dropTypeName category.toList a.toList) with
  | nil => exact List.not_mem_nil
  | cons c cs =>
    rw [hstem] at hsubset
    have hc : c ∈ a.toList := hsubset List.mem_cons_self
    have hlower : c ≠ '`' → c.toLower ≠ '`' :=
      forall_ascii (P := fun c => c ≠ '`' → c.toLower ≠ '`') (by decide) (h.ascii c hc)
    rw [Text.lowerFirst, Text.lowerChar_of_ascii (h.ascii c hc), List.singleton_append,
      List.mem_cons, not_or]
    refine ⟨(hlower ?_).symm, fun hmem => hlabel (hsubset (List.mem_cons_of_mem _ hmem))⟩
    rintro rfl
    exact hlabel hc

end IsCaseLabel

/-! ## Names of cases -/

/-- Texts of which neither is empty start alike in lower case if they are the same but for the case
of their first characters. -/
theorem lowerFirst_eq_iff {s t : List Char} (hs : s ≠ []) (hsascii : ∀ c ∈ s, c.toNat < 128)
    (ht : t ≠ []) (htascii : ∀ c ∈ t, c.toNat < 128) :
    Text.lowerFirst s = Text.lowerFirst t ↔ SameButCapital s t := by
  obtain ⟨c, cs, rfl⟩ := List.exists_cons_of_ne_nil hs
  obtain ⟨d, ds, rfl⟩ := List.exists_cons_of_ne_nil ht
  rw [Text.lowerFirst, Text.lowerFirst, Text.lowerChar_of_ascii (hsascii c List.mem_cons_self),
    Text.lowerChar_of_ascii (htascii d List.mem_cons_self), List.singleton_append,
    List.singleton_append, List.cons.injEq]
  constructor
  · rintro ⟨hfirst, rfl⟩
    exact ⟨c, d, cs, rfl, rfl, hfirst⟩
  · rintro ⟨_, _, _, hs, ht, hfirst⟩
    cases hs
    cases ht
    exact ⟨hfirst, rfl⟩

/-- Labels give the same name, not yet escaped, exactly if they collide. -/
theorem bareCaseName_eq_iff (ha : IsCaseLabel a) (hb : IsCaseLabel b) :
    bareCaseName category.toList a.toList = bareCaseName category.toList b.toList ↔
      Collide category a b := by
  have hsame {s t : List Char} (hs : IsStem category.toList a.toList s)
      (ht : IsStem category.toList b.toList t) :
      Text.lowerFirst s = Text.lowerFirst t ↔ SameButCapital s t :=
    lowerFirst_eq_iff (ha.stem_ne_nil hs) (fun c hc => ha.ascii c (ha.stem_subset hs hc))
      (hb.stem_ne_nil ht) (fun c hc => hb.ascii c (hb.stem_subset ht hc))
  rw [bareCaseName, bareCaseName]
  constructor
  · intro heq
    have hs : IsStem category.toList a.toList _ := ha.isStem_iff.mpr rfl
    have ht : IsStem category.toList b.toList _ := hb.isStem_iff.mpr rfl
    exact ⟨_, _, hs, ht, (hsame hs ht).mp heq⟩
  · rintro ⟨s, t, hs, ht, hst⟩
    rw [← ha.isStem_iff.mp hs, ← hb.isStem_iff.mp ht]
    exact (hsame hs ht).mpr hst

/-- Labels of a category give the same case exactly if they collide. -/
theorem caseName_eq_iff (ha : IsCaseLabel a) (hb : IsCaseLabel b) :
    caseName category a = caseName category b ↔ Collide category a b := by
  rw [← bareCaseName_eq_iff ha hb]
  constructor
  · intro heq
    have hmark : ∀ name : String, '`' ∈ (escape name).toList := by
      intro name
      simp [escape, String.toList_append]
    -- A name with backquotes is not one without, so both are escaped or neither is.
    unfold caseName at heq
    dsimp only at heq
    split_ifs at heq
    · rw [escape, escape, String.append_left_inj, String.append_right_inj] at heq
      exact String.ofList_injective heq
    · have hmem := hmark (String.ofList (bareCaseName category.toList a.toList))
      rw [heq, String.toList_ofList] at hmem
      exact absurd hmem hb.backquote_notMem_bareCaseName
    · have hmem := hmark (String.ofList (bareCaseName category.toList b.toList))
      rw [← heq, String.toList_ofList] at hmem
      exact absurd hmem ha.backquote_notMem_bareCaseName
    · exact String.ofList_injective heq
  · intro heq
    rw [caseName, caseName, heq]

end SyntaxBridge.Swift
