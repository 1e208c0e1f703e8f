import SyntaxBridge.Proofs.Swift.BlockLayout
import SyntaxBridge.Proofs.Swift.NameText
import SyntaxBridge.Proofs.Text.Start

/-!
# Lines that make up source

The declarations of a source are written from a few kinds of lines: plain ones without braces, heads
of blocks, which end in a brace, and the brace that closes a block. Source is put together from them
by `isSource_of_plain`, `IsSource.block` and `IsSource.append`. Two blocks need more than that:
the lines of an enumeration (`IsCaseLine`) and those of a switch (`IsSwitchLine`) must be told apart
by the indenter, which only looks at their text.
-/

namespace SyntaxBridge.Swift

open Text

/-- Whether a character is neither a brace nor a line feed. -/
def isPlainChar (c : Char) : Bool :=
  c != '\x7b' && c != '\x7d' && c != '\n'

/-- A text holds no braces and no line feeds. -/
def IsPlain (text : String) : Prop :=
  ∀ c ∈ text.toList, isPlainChar c = true

/-- A text ends in an opening brace and is plain apart from it. -/
def IsHeadEnd (text : String) : Prop :=
  text.toList.getLast? = some '\x7b' ∧ ∀ c ∈ text.toList.dropLast, isPlainChar c = true

/-- The starts of lines that the indenter or the layout of a block treats differently. -/
def notableStarts : List String :=
  ["default:", "switch ", "public enum ", "public indirect enum "]

/-- A text starts in a way that rules all of the notable starts out, whatever follows it. -/
def IsOrdinaryStart (text : String) : Prop :=
  IsPlain text ∧ text.toList.head?.any (!isBlank ·) = true ∧
    ∀ start ∈ notableStarts, startsWith start text = false ∧ startsWith text start = false

/-- A line is the head of a block that is nothing special. -/
def IsBlockHead (head : String) : Prop :=
  IsHeadEnd head ∧ head.toList.head?.any (!isBlank ·) = true ∧
    ∀ start ∈ notableStarts, startsWith start head = false

instance (text : String) : Decidable (IsPlain text) :=
  decidable_of_iff (text.toList.all isPlainChar = true) List.all_eq_true

variable {a b text start last head line : String}  {lines others body : List String}

/-! ## Literals

A literal is `String.ofList` of its characters, so what is decided about a literal is decided about
a list of characters, without decoding the literal again.
-/

section Literal

variable {cs : List Char}

theorem isPlain_ofList (h : cs.all isPlainChar = true) : IsPlain (String.ofList cs) := by
  rw [IsPlain, String.toList_ofList]
  exact List.all_eq_true.mp h

theorem isHeadEnd_ofList
    (h : (cs.getLast? == some '\x7b' && cs.dropLast.all isPlainChar) = true) :
    IsHeadEnd (String.ofList cs) := by
  rw [Bool.and_eq_true, beq_iff_eq, List.all_eq_true] at h
  rwa [IsHeadEnd, String.toList_ofList]

theorem isOrdinaryStart_ofList
    (h : (cs.all isPlainChar && cs.head?.any (!isBlank ·) && notableStarts.all fun start =>
      !start.toList.isPrefixOf cs && !cs.isPrefixOf start.toList) = true) :
    IsOrdinaryStart (String.ofList cs) := by
  simp only [Bool.and_eq_true, List.all_eq_true, Bool.not_eq_true'] at h
  obtain ⟨⟨hplain, hfirst⟩, hnotable⟩ := h
  refine ⟨isPlain_ofList (List.all_eq_true.mpr hplain), by rwa [String.toList_ofList],
    fun start hstart => ?_⟩
  rw [startsWith, startsWith, String.toList_ofList]
  exact hnotable start hstart

theorem isBlockHead_ofList
    (h : (cs.getLast? == some '\x7b' && cs.dropLast.all isPlainChar &&
      cs.head?.any (!isBlank ·) && notableStarts.all fun start =>
        !start.toList.isPrefixOf cs) = true) : IsBlockHead (String.ofList cs) := by
  rw [Bool.and_eq_true, Bool.and_eq_true, List.all_eq_true] at h
  obtain ⟨⟨hend, hfirst⟩, hnotable⟩ := h
  refine ⟨isHeadEnd_ofList hend, by rwa [String.toList_ofList], fun start hstart => ?_⟩
  rw [startsWith, String.toList_ofList]
  simpa only [Bool.not_eq_true'] using hnotable start hstart

end Literal

/-! ## Plain texts -/

theorem isPlainChar_iff {c : Char} :
    isPlainChar c = true ↔ c ≠ '\x7b' ∧ c ≠ '\x7d' ∧ c ≠ '\n' := by
  simp [isPlainChar, and_assoc]

/-- A plain character is no brace. -/
theorem braces_ne_of_isPlainChar {c : Char} (h : isPlainChar c = true) : c ≠ '\x7b' ∧ c ≠ '\x7d' :=
  ⟨(isPlainChar_iff.mp h).1, (isPlainChar_iff.mp h).2.1⟩

theorem isPlain_append : IsPlain (a ++ b) ↔ IsPlain a ∧ IsPlain b := by
  rw [IsPlain, String.toList_append]
  exact List.forall_mem_append

theorem IsPlain.append (ha : IsPlain a) (hb : IsPlain b) : IsPlain (a ++ b) :=
  isPlain_append.mpr ⟨ha, hb⟩

/-- Names are plain. -/
theorem IsNameText.isPlain (h : IsNameText text) : IsPlain text := by
  intro c hc
  rw [isPlainChar_iff]
  refine ⟨?_, ?_, ?_⟩ <;> rintro rfl <;> exact absurd (h _ hc) (by decide)

/-- No line feed stands in a plain text. -/
theorem IsPlain.lineFeed_notMem (h : IsPlain text) : '\n' ∉ text.toList :=
  fun hmem => (isPlainChar_iff.mp (h _ hmem)).2.2 rfl

/-- A plain text is balanced, as there are no braces in it. -/
theorem IsPlain.balanced (h : IsPlain text) : Balanced text.toList :=
  balanced_of_forall fun c hc => braces_ne_of_isPlainChar (h c hc)

/-- Plain texts joined by a plain one are plain. -/
theorem isPlain_intercalate (hsep : IsPlain a) (h : ∀ text ∈ lines, IsPlain text) :
    IsPlain (a.intercalate lines) := by
  induction lines with
  | nil => exact List.forall_mem_nil _
  | cons text lines ih =>
    rw [List.forall_mem_cons] at h
    cases lines with
    | nil => simpa using h.1
    | cons next lines =>
      rw [String.intercalate_cons_cons, isPlain_append, isPlain_append]
      exact ⟨⟨h.1, hsep⟩, ih h.2⟩

/-- What is left of a plain text after trimming holds no braces. -/
theorem IsPlain.trim (h : IsPlain text) : ∀ c ∈ trim text.toList, c ≠ '\x7b' ∧ c ≠ '\x7d' :=
  fun c hc => braces_ne_of_isPlainChar (h c ((trim_sublist _).subset hc))

/-! ## Source in parts -/

/-- Plain lines are source. -/
theorem isSource_of_plain (h : ∀ line ∈ lines, IsPlain line) : IsSource lines where
  isCode := by
    induction lines with
    | nil => exact .nil
    | cons line lines ih =>
      rw [List.forall_mem_cons] at h
      exact .line h.1.balanced.trim (ih h.2)
  lineFeed_notMem line hline := (h line hline).lineFeed_notMem

/-- A plain line is source. -/
theorem IsPlain.isSource (h : IsPlain line) : IsSource [line] :=
  isSource_of_plain (List.forall_mem_singleton.mpr h)

/-- A block within a line is source. -/
theorem isSource_inline {front inner : String} (hfront : IsPlain front) (hinner : IsPlain inner) :
    IsSource [front ++ "\x7b" ++ inner ++ "\x7d"] where
  isCode := by
    refine .line (Balanced.trim ?_) .nil
    have hline : (front ++ "\x7b" ++ inner ++ "\x7d").toList =
        front.toList ++ '\x7b' :: (inner.toList ++ ['\x7d']) := by simp
    rw [hline]
    exact hfront.balanced.append hinner.balanced.braces
  lineFeed_notMem line hline hmem := by
    obtain rfl := List.mem_singleton.mp hline
    simp only [String.toList_append, List.mem_append] at hmem
    rcases hmem with ((hmem | hmem) | hmem) | hmem
    · exact hfront.lineFeed_notMem hmem
    · exact absurd hmem (by decide)
    · exact hinner.lineFeed_notMem hmem
    · exact absurd hmem (by decide)

/-- Source in parts is source. -/
theorem IsSource.append (hlines : IsSource lines) (hothers : IsSource others) :
    IsSource (lines ++ others) where
  isCode := by
    rw [List.map_append]
    exact hlines.isCode.append hothers.isCode
  lineFeed_notMem line hline := by
    rcases List.mem_append.mp hline with hline | hline
    · exact hlines.lineFeed_notMem line hline
    · exact hothers.lineFeed_notMem line hline

/-! ## Heads -/

/-- A text that goes on starts with the same character. -/
theorem any_head?_append {p : Char → Bool} (h : start.toList.head?.any p = true) (text : String) :
    (start ++ text).toList.head?.any p = true := by
  rw [String.toList_append]
  cases hstart : start.toList with
  | nil =>
    rw [hstart] at h
    cases h
  | cons c cs =>
    rw [hstart] at h
    exact h

/-- More of a plain text leaves a start as it is. -/
theorem IsOrdinaryStart.append (hstart : IsOrdinaryStart start) (htext : IsPlain text) :
    IsOrdinaryStart (start ++ text) := by
  obtain ⟨hplain, hfirst, hnotable⟩ := hstart
  refine ⟨isPlain_append.mpr ⟨hplain, htext⟩, any_head?_append hfirst text, fun other hother => ?_⟩
  obtain ⟨hother, hself⟩ := hnotable other hother
  refine ⟨startsWith_append_eq_false _ hother hself, ?_⟩
  -- If all of the longer text started the notable one, so would the shorter text.
  rw [Bool.eq_false_iff]
  intro h
  exact Bool.false_ne_true (hself.symm.trans (startsWith_of_startsWith_append h))

/-- A start and an end make a head. -/
theorem isBlockHead_append (hstart : IsOrdinaryStart start) (hlast : IsHeadEnd last) :
    IsBlockHead (start ++ last) := by
  obtain ⟨hplain, hfirst, hnotable⟩ := hstart
  obtain ⟨hbrace, hinit⟩ := hlast
  have hne : last.toList ≠ [] := by
    intro hnil
    rw [hnil] at hbrace
    cases hbrace
  refine ⟨⟨?_, ?_⟩, any_head?_append hfirst last, fun other hother => ?_⟩
  · rw [String.toList_append, List.getLast?_append, hbrace]
    rfl
  · rw [String.toList_append, List.dropLast_append_of_ne_nil hne]
    exact List.forall_mem_append.mpr ⟨hplain, hinit⟩
  · -- The start rules the notable one out before the end is looked at.
    obtain ⟨hother, hself⟩ := hnotable other hother
    exact startsWith_append_eq_false _ hother hself

/-! ## Blocks -/

/-- A line that starts and ends in something else than white space is left alone by trimming. -/
theorem IsHeadEnd.trim_eq (h : IsHeadEnd head)
    (hfirst : head.toList.head?.any (!isBlank ·) = true) : trim head.toList = head.toList := by
  refine trim_eq_self ⟨fun c hc => ?_, fun c hc => ?_⟩
  · rw [Option.mem_def.mp hc] at hfirst
    simpa using hfirst
  · obtain rfl : '\x7b' = c := Option.some.inj (h.1.symm.trans hc)
    decide

/-- What stands before the last brace of a head is plain. -/
theorem IsHeadEnd.exists_eq_append (h : IsHeadEnd head) :
    ∃ front, head.toList = front ++ ['\x7b'] ∧ ∀ c ∈ front, isPlainChar c = true := by
  obtain ⟨front, hfront⟩ := List.getLast?_eq_some_iff.mp h.1
  have hplain := h.2
  rw [hfront, List.dropLast_concat] at hplain
  exact ⟨front, hfront, hplain⟩

/-- A head, source between the braces, and a closing brace are source, if the head looks like no
label and the source is fit for a switch or an enumeration if the head opens one. -/
theorem isSource_block (hhead : IsHeadEnd head) (hfirst : head.toList.head?.any (!isBlank ·) = true)
    (hlabel : startsWith "default:" head = false)
    (hswitch : startsWith "switch " head = true → IsSwitchBody (body.map String.toList))
    (henum : startsWith "public enum " head = true ∨ startsWith "public indirect enum " head = true →
      IsEnumBody (body.map String.toList))
    (hbody : IsSource body) : IsSource (head :: (body ++ ["\x7d"])) where
  isCode := by
    obtain ⟨front, hfront, hplain⟩ := hhead.exists_eq_append
    have htrim := hhead.trim_eq hfirst
    have hbalanced : Balanced front :=
      balanced_of_forall fun c hc => braces_ne_of_isPlainChar (hplain c hc)
    rw [List.map_cons, List.map_append]
    refine .block (htrim.trans hfront) hbalanced ?_ (by decide) ?_ ?_ hbody.isCode .nil
    · -- The line ends in a brace, not in a colon.
      have hdefault : "default:".toList.isPrefixOf head.toList = false := hlabel
      rw [htrim, isCaseLabel, hhead.1, hdefault]
      simp
    · intro hopens
      rw [opensSwitch, htrim, ← startsWith, Bool.and_eq_true] at hopens
      exact hswitch hopens.1
    · intro hopens
      rw [opensEnum, htrim, ← startsWith, ← startsWith, Bool.and_eq_true, Bool.or_eq_true] at hopens
      exact henum hopens.1
  lineFeed_notMem := by
    intro line hline hmem
    -- The line is the head, one of the body, or the closing brace.
    rcases List.mem_cons.mp hline with rfl | hline
    · obtain ⟨front, hfront, hplain⟩ := hhead.exists_eq_append
      rw [hfront] at hmem
      rcases List.mem_append.mp hmem with hmem | hmem
      · exact absurd (hplain _ hmem) (by decide)
      · exact absurd (List.mem_singleton.mp hmem) (by decide)
    · rcases List.mem_append.mp hline with hline | hline
      · exact hbody.lineFeed_notMem line hline hmem
      · obtain rfl := List.mem_singleton.mp hline
        exact absurd hmem (by decide)

/-- A head that is nothing special, source between the braces, and a closing brace are source. -/
theorem IsSource.block (hbody : IsSource body) (hhead : IsBlockHead head) :
    IsSource (head :: (body ++ ["\x7d"])) := by
  obtain ⟨hend, hfirst, hnotable⟩ := hhead
  have hstart {start : String} (hstart : start ∈ notableStarts) : startsWith start head ≠ true := by
    rw [hnotable start hstart]
    exact Bool.false_ne_true
  refine isSource_block hend hfirst (hnotable _ (by decide)) (fun h => ?_) (fun h => ?_) hbody
  · exact absurd h (hstart (by decide))
  · exact h.elim (absurd · (hstart (by decide))) (absurd · (hstart (by decide)))

/-- Source that ends in a closing brace is a block. -/
theorem IsSource.isBlock (h : IsSource (head :: (lines ++ ["\x7d"]))) :
    IsBlock (head :: (lines ++ ["\x7d"])) where
  toIsSource := h
  last := by
    refine ⟨"\x7d", ?_, by decide⟩
    rw [← List.cons_append]
    exact List.getLast?_concat

/-- A head, given by its start and its end, source between the braces, and a closing brace are a
block. -/
theorem IsSource.isBlock_append {start : String} (hlines : IsSource lines)
    (hstart : IsOrdinaryStart start) (hlast : IsHeadEnd last) :
    IsBlock ((start ++ last) :: (lines ++ ["\x7d"])) :=
  (hlines.block (isBlockHead_append hstart hlast)).isBlock

/-- Plain lines, the last of which is not empty, are a block. -/
theorem isBlock_of_plain (h : ∀ line ∈ lines, IsPlain line) (hlast : lines.getLast? = some last)
    (hne : last ≠ "") : IsBlock lines where
  toIsSource := isSource_of_plain h
  last := ⟨last, hlast, hne⟩

/-- A heading is a block. -/
theorem isBlock_heading (h : IsPlain text) : IsBlock ["//MARK:- " ++ text] := by
  refine isBlock_of_plain (List.forall_mem_singleton.mpr ?_) rfl (by simp)
  exact .append (by decide) h

/-! ## Lines of an enumeration -/

/-- A line may stand in an enumeration: it is plain and does not look like a label. -/
structure IsCaseLine (line : String) : Prop where
  isPlain : IsPlain line
  trim_ne : trim line.toList ≠ []
  isCaseLabel_eq : isCaseLabel (trim line.toList) = false

/-- A case that does not end in a colon does not look like a label. -/
theorem isCaseLine_of_getLast? (hplain : IsPlain line) (hfirst : line.toList.head? = some 'c')
    (hlast : (trim line.toList).getLast? ≠ some ':') : IsCaseLine line where
  isPlain := hplain
  trim_ne hnil := by
    have hhead := head?_trim hfirst rfl
    rw [hnil] at hhead
    cases hhead
  isCaseLabel_eq := by
    obtain ⟨rest, hrest⟩ := List.head?_eq_some_iff.mp (head?_trim hfirst rfl)
    have hdefault : "default:".toList.isPrefixOf (trim line.toList) = false := by
      rw [hrest]
      rfl
    rw [isCaseLabel, hdefault, beq_eq_false_iff_ne.mpr hlast, Bool.and_false]
    rfl

/-- An enumeration with such lines is source. -/
theorem isSource_enum (hhead : IsHeadEnd head) (hfirst : head.toList.head? = some 'p')
    (hlines : ∀ line ∈ lines, IsCaseLine line) : IsSource (head :: (lines ++ ["\x7d"])) := by
  -- The head starts with another letter than a switch, so only the lines of a body of cases matter.
  refine isSource_block hhead (by rw [hfirst]; decide)
    (startsWith_eq_false_of_head? rfl hfirst (by decide)) (fun hswitch => ?_) (fun _ => ?_)
    (isSource_of_plain fun line hline => (hlines line hline).isPlain)
  · rw [startsWith_eq_false_of_head? rfl hfirst (by decide)] at hswitch
    cases hswitch
  · intro text htext
    obtain ⟨line, hline, rfl⟩ := List.mem_map.mp htext
    obtain ⟨hplain, hne, hlabel⟩ := hlines line hline
    exact ⟨⟨hne, hplain.trim⟩, hlabel⟩

/-! ## Lines of a switch -/

/-- A line may stand in a switch: it is plain, and it looks like a label exactly if it is one. -/
structure IsSwitchLine (line : String) : Prop where
  isPlain : IsPlain line
  trim_ne : trim line.toList ≠ []
  isCaseLabel_iff : isCaseLabel (trim line.toList) = true ↔ IsSwitchLabel line.toList

/-- The label for a number is a line of a switch. -/
theorem isSwitchLine_case (number : Nat) : IsSwitchLine ("case " ++ toString number ++ ":") := by
  have htext : ("case " ++ toString number ++ ":").toList =
      "case".toList ++ (' ' :: (toString number).toList) ++ [':'] := by
    simp
  have hcolon : ("case " ++ toString number ++ ":").toList.getLast? = some ':' := by
    rw [htext, List.getLast?_concat]
  have htrim : trim ("case " ++ toString number ++ ":").toList =
      ("case " ++ toString number ++ ":").toList := by
    refine trim_eq_self ⟨fun c hc => ?_, fun c hc => ?_⟩
    · obtain rfl : 'c' = c := by
        rw [htext] at hc
        exact Option.some.inj hc
      decide
    · obtain rfl : ':' = c := Option.some.inj (hcolon.symm.trans hc)
      decide
  refine ⟨?_, ?_, iff_of_true ?_ (.inl ⟨number, htrim⟩)⟩
  · rw [isPlain_append, isPlain_append]
    exact ⟨⟨isPlain_ofList (by decide), (isNameText_toString number).isPlain⟩,
      isPlain_ofList (by decide)⟩
  · rw [htrim, htext]
    simp
  · have hstart : "case".toList.isPrefixOf ("case " ++ toString number ++ ":").toList = true := by
      rw [htext, List.isPrefixOf_iff_prefix, List.append_assoc]
      exact List.prefix_append _ _
    rw [isCaseLabel, htrim, hstart, hcolon]
    rfl

/-- The label for all other numbers is a line of a switch. -/
theorem isSwitchLine_default : IsSwitchLine "default:" where
  isPlain := by decide
  trim_ne := by decide
  isCaseLabel_iff := iff_of_true (by decide) (.inr (by decide))

/-- A statement that does not start like a label is a line of a switch. -/
theorem isSwitchLine_of_head? {c : Char} (hplain : IsPlain line)
    (hfirst : line.toList.head? = some c) (hblank : isBlank c = false) (hcase : 'c' ≠ c)
    (hdefault : 'd' ≠ c) : IsSwitchLine line := by
  obtain ⟨rest, hrest⟩ := List.head?_eq_some_iff.mp (head?_trim hfirst hblank)
  -- Labels start with one of two letters, and this line starts with neither.
  have hlabel : isCaseLabel (trim line.toList) = false := by
    rw [hrest, isCaseLabel]
    simp [List.isPrefixOf, hcase, hdefault]
  refine ⟨hplain, by simp [hrest], iff_of_false (by simp [hlabel]) ?_⟩
  rintro (⟨number, htrim⟩ | htrim)
  · rw [hrest] at htrim
    simp [hcase.symm] at htrim
  · rw [hrest] at htrim
    exact hdefault (List.cons_eq_cons.mp htrim).1.symm

/-- A switch with such lines is source. -/
theorem isSource_switch (hlines : ∀ line ∈ lines, IsSwitchLine line) :
    IsSource ("switch value.kind \x7b" :: (lines ++ ["\x7d"])) := by
  refine isSource_block (isHeadEnd_ofList (by decide)) rfl rfl (fun _ => ?_) (fun henum => ?_)
    (isSource_of_plain fun line hline => (hlines line hline).isPlain)
  · intro text htext
    obtain ⟨line, hline, rfl⟩ := List.mem_map.mp htext
    obtain ⟨hplain, hne, hlabel⟩ := hlines line hline
    exact ⟨⟨hne, hplain.trim⟩, hlabel⟩
  · exact absurd henum (by decide)

end SyntaxBridge.Swift
