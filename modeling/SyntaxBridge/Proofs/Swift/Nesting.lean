import SyntaxBridge.Proofs.Swift.Braces
import SyntaxBridge.Proofs.Swift.Indent

/-!
# Nested code

The indenter knows nothing of the language that it indents: it counts braces, and it guesses from
the text of a line whether that is the label of a case. `IsCode` describes lines for which this
gives the right result: lines whose braces match, and blocks that are opened by a brace at the end
of a line and closed by a line of its own. The lines between the braces of a switch and of an
enumeration must hold no braces, and the guess must be right for them.

## Main definitions

* `Closes`: a line closes the brace that another line opens;
* `Aligned`: how far a line of a text is indented, compared to the lines that belong to it.

## Main results

* `IsCode.foldl_depthAfter`: code ends at the depth that it started at;
* `IsCode.balanced`: indented code is balanced;
* `IsCode.aligned`: every line of indented code is aligned.
-/

namespace SyntaxBridge.Swift

open Text

/-! ## Lines -/

/-- The number of spaces in front of a line. -/
def margin (line : List Char) : Nat :=
  (line.takeWhile (· == ' ')).length

/-- Whether a line is the head of a switch. -/
def opensSwitch (line : List Char) : Bool :=
  "switch ".toList.isPrefixOf (trim line) && (trim line).getLast? == some '\x7b'

/-- Whether a line is the head of an enumeration. -/
def opensEnum (line : List Char) : Bool :=
  ("public enum ".toList.isPrefixOf (trim line) ||
    "public indirect enum ".toList.isPrefixOf (trim line)) && (trim line).getLast? == some '\x7b'

/-- A line is a label of a switch over numbers. -/
def IsSwitchLabel (line : List Char) : Prop :=
  (∃ number : Nat, trim line = ("case " ++ toString number ++ ":").toList) ∨
    trim line = "default:".toList

/-- A line is not blank and holds no braces. -/
def IsFlat (line : List Char) : Prop :=
  trim line ≠ [] ∧ ∀ c ∈ trim line, c ≠ '\x7b' ∧ c ≠ '\x7d'

/-- Lines that may stand between the braces of a switch: what looks like a label is one. -/
def IsSwitchBody (lines : List (List Char)) : Prop :=
  ∀ line ∈ lines, IsFlat line ∧ (isCaseLabel (trim line) = true ↔ IsSwitchLabel line)

/-- Lines that may stand between the braces of an enumeration: none of them looks like a label. -/
def IsEnumBody (lines : List (List Char)) : Prop :=
  ∀ line ∈ lines, IsFlat line ∧ isCaseLabel (trim line) = false

/-- Lines of code, whatever white space stands around them. -/
inductive IsCode : List (List Char) → Prop
  /-- There may be no lines. -/
  | nil : IsCode []
  /-- A line whose braces match. -/
  | line {line : List Char} {lines : List (List Char)} (hline : Balanced (trim line)) :
    IsCode lines → IsCode (line :: lines)
  /-- A block: a head that ends in a brace, and lines up to one that closes it. -/
  | block {head front closing : List Char} {body lines : List (List Char)}
    (hhead : trim head = front ++ ['\x7b']) (hfront : Balanced front)
    (hlabel : isCaseLabel (trim head) = false) (hclosing : trim closing = ['\x7d'])
    (hswitch : opensSwitch head = true → IsSwitchBody body)
    (henum : opensEnum head = true → IsEnumBody body) :
    IsCode body → IsCode lines → IsCode (head :: (body ++ closing :: lines))

/-- A line that starts with a brace closes the last brace that another line opens: what stands
between them is balanced. -/
structure Closes (opening : List Char) (inner : List (List Char)) (closing : List Char) : Prop where
  closesBlock_eq : closesBlock (trim closing) = true
  balanced : ∃ before after, opening = before ++ '\x7b' :: after ∧ Balanced (after ++ inner.flatten)

/-- How far a line is indented, compared to the lines before and behind it. -/
structure Aligned (before : List (List Char)) (line : List Char) (after : List (List Char)) :
    Prop where
  /-- A closing brace stands below the line of the brace that it closes. -/
  closing : closesBlock (trim line) = true → ∃ outer opening inner,
    before = outer ++ opening :: inner ∧ Closes opening inner line ∧ margin line = margin opening
  /-- The labels of a switch stand below its head, and the statements one level further in. -/
  switch : opensSwitch line = true → ∃ body closing rest, after = body ++ closing :: rest ∧
    Closes line body closing ∧ ∀ statement ∈ body,
      (IsSwitchLabel statement → margin statement = margin line) ∧
      (¬ IsSwitchLabel statement → margin statement = margin line + 4)
  /-- The cases of an enumeration stand one level further in than its head. -/
  enum : opensEnum line = true → ∃ body closing rest, after = body ++ closing :: rest ∧
    Closes line body closing ∧ ∀ enumCase ∈ body, margin enumCase = margin line + 4

variable {depth : Int} {line head front closing : List Char}
  {lines body rest before after : List (List Char)}

/-- Lines that are put in front and behind do not matter. -/
theorem Aligned.extend (h : Aligned before line after) (outer rest : List (List Char)) :
    Aligned (outer ++ before) line (after ++ rest) where
  closing hcloses := by
    obtain ⟨first, opening, inner, rfl, hrest⟩ := h.closing hcloses
    exact ⟨outer ++ first, opening, inner, by simp, hrest⟩
  switch hopens := by
    obtain ⟨body, closing, last, rfl, hrest⟩ := h.switch hopens
    exact ⟨body, closing, last ++ rest, by simp, hrest⟩
  enum hopens := by
    obtain ⟨body, closing, last, rfl, hrest⟩ := h.enum hopens
    exact ⟨body, closing, last ++ rest, by simp, hrest⟩

/-! ## Depth -/

/-- The depth behind lines without braces is the one before them. -/
theorem depthAfter_of_balanced (h : Balanced (trim line)) : depthAfter depth line = depth := by
  rw [depthAfter, h.braceChange_eq, Int.add_zero]

/-- A head opens one block. -/
theorem depthAfter_head (hhead : trim head = front ++ ['\x7b']) (hfront : Balanced front) :
    depthAfter depth head = depth + 1 := by
  rw [depthAfter, hhead, braceChange_append, hfront.braceChange_eq]
  rfl

/-- A closing brace closes one block. -/
theorem depthAfter_closing (hclosing : trim closing = ['\x7d']) :
    depthAfter (depth + 1) closing = depth := by
  rw [depthAfter, hclosing, show braceChange ['\x7d'] = -1 from rfl]
  omega

/-- Code ends at the depth that it started at. -/
theorem IsCode.foldl_depthAfter (h : IsCode lines) (depth : Int) :
    lines.foldl depthAfter depth = depth := by
  induction h generalizing depth with
  | nil => rfl
  | line hline _ ih => rw [List.foldl_cons, depthAfter_of_balanced hline, ih]
  | block hhead hfront _ hclosing _ _ _ _ ihbody ih =>
    rw [List.foldl_cons, depthAfter_head hhead hfront, List.foldl_append, ihbody, List.foldl_cons,
      depthAfter_closing hclosing, ih]

/-- The lines of a block are placed one level further in than its head, and what follows it is
placed like the head. -/
theorem placeLines_block (hhead : trim head = front ++ ['\x7b']) (hfront : Balanced front)
    (hclosing : trim closing = ['\x7d']) (hbody : IsCode body) (width depth : Int) :
    placeLines width depth (head :: (body ++ closing :: lines)) =
      placeLine width depth head :: (placeLines width (depth + 1) body ++
        placeLine width (depth + 1) closing :: placeLines width depth lines) := by
  rw [placeLines, depthAfter_head hhead hfront, placeLines_append, hbody.foldl_depthAfter,
    placeLines, depthAfter_closing hclosing]

/-! ## Balance -/

/-- A line is indented by nothing but spaces. -/
theorem exists_placeLine_eq (width depth : Int) (line : List Char) :
    ∃ spaces, (∀ c ∈ spaces, c = ' ') ∧ placeLine width depth line = spaces ++ trim line := by
  rw [placeLine]
  split
  next hempty =>
    exact ⟨[], List.forall_mem_nil _, (List.isEmpty_iff.mp hempty).symm⟩
  next => exact ⟨_, fun c hc => eq_space_of_mem_indentation hc, rfl⟩

/-- Spaces hold no braces. -/
theorem balanced_spaces {spaces : List Char} (h : ∀ c ∈ spaces, c = ' ') : Balanced spaces := by
  refine balanced_of_forall fun c hc => ?_
  rw [h c hc]
  decide

/-- Indented code is balanced. -/
theorem IsCode.balanced (h : IsCode lines) (width depth : Int) :
    Balanced (placeLines width depth lines).flatten := by
  induction h generalizing depth with
  | nil => exact balanced_of_forall (List.forall_mem_nil _)
  | @line line _ hline _ ih =>
    obtain ⟨spaces, hspaces, hplaced⟩ := exists_placeLine_eq width depth line
    rw [placeLines, List.flatten_cons, hplaced]
    exact ((balanced_spaces hspaces).append hline).append (ih _)
  | @block head front closing body lines hhead hfront _ hclosing _ _ hbody _ ihbody ih =>
    obtain ⟨spaces, hspaces, hplaced⟩ := exists_placeLine_eq width depth head
    obtain ⟨spaces', hspaces', hplaced'⟩ := exists_placeLine_eq width (depth + 1) closing
    -- The head up to its brace, the block between the braces, and what follows are all balanced.
    have hblock : (placeLines width depth (head :: (body ++ closing :: lines))).flatten =
        (spaces ++ front) ++ ('\x7b' :: ((placeLines width (depth + 1) body).flatten ++ spaces' ++
          ['\x7d'])) ++ (placeLines width depth lines).flatten := by
      rw [placeLines_block hhead hfront hclosing hbody, hplaced, hplaced', hhead, hclosing]
      simp
    rw [hblock]
    exact (((balanced_spaces hspaces).append hfront).append
      ((ihbody _).append (balanced_spaces hspaces')).braces).append (ih _)

/-! ## Margins -/

/-- A line that is not blank stands behind the spaces that its level asks for. -/
theorem margin_placeLine (hne : trim line ≠ []) (width depth : Int) :
    margin (placeLine width depth line) = (lineLevel depth (trim line) * width).toNat := by
  obtain ⟨c, cs, hcs⟩ := List.exists_cons_of_ne_nil hne
  have hblank : isBlank c = false := (isBare_trim line).head c (by rw [hcs]; rfl)
  have hc : (c == ' ') = false := by
    by_contra h
    rw [Bool.not_eq_false, beq_iff_eq] at h
    rw [h] at hblank
    exact absurd hblank (by decide)
  rw [placeLine, if_neg (by simp [hne]), margin, indentation, hcs]
  rw [List.takeWhile_append_of_pos fun _ h => beq_iff_eq.mpr (List.eq_of_mem_replicate h)]
  simp [hc]

/-- Lines without braces are all placed from the same depth. -/
theorem placeLines_of_forall (h : ∀ line ∈ lines, IsFlat line) (width depth : Int) :
    placeLines width depth lines = lines.map (placeLine width depth) := by
  induction lines with
  | nil => rfl
  | cons line lines ih =>
    rw [List.forall_mem_cons] at h
    rw [placeLines, depthAfter_of_balanced (balanced_of_forall h.1.2), ih h.2, List.map_cons]

/-- The head of a block does not start with a closing brace. -/
theorem closesBlock_head (hhead : trim head = front ++ ['\x7b']) (hfront : Balanced front) :
    closesBlock (trim head) = false := by
  rw [hhead]
  cases front with
  | nil => rfl
  | cons c cs => exact beq_eq_false_iff_ne.mpr hfront.head?_ne

/-- The head of a block stands at the depth before it. -/
theorem margin_head (hhead : trim head = front ++ ['\x7b']) (hfront : Balanced front)
    (hlabel : isCaseLabel (trim head) = false) (depth : Int) :
    margin (placeLine 4 depth head) = (depth * 4).toNat := by
  rw [margin_placeLine (by simp [hhead]), lineLevel, closesBlock_head hhead hfront, hlabel]
  simp

/-- The closing brace of a block stands at the depth before the head. -/
theorem margin_closing (hclosing : trim closing = ['\x7d']) (depth : Int) :
    margin (placeLine 4 (depth + 1) closing) = (depth * 4).toNat := by
  have hlevel : lineLevel (depth + 1) ['\x7d'] = depth := by
    rw [lineLevel, show closesBlock ['\x7d'] = true from rfl,
      show isCaseLabel ['\x7d'] = false by decide]
    simp
  rw [margin_placeLine (by simp [hclosing]), hclosing, hlevel]

/-- A line in a block stands one level further in than the head, unless it looks like a label: then
it stands below the head. -/
theorem margin_body (hdepth : 0 ≤ depth) (hline : IsFlat line) :
    margin (placeLine 4 (depth + 1) line) =
      (depth * 4).toNat + if isCaseLabel (trim line) = true then 0 else 4 := by
  have hstart : closesBlock (trim line) = false :=
    beq_eq_false_iff_ne.mpr (balanced_of_forall hline.2).head?_ne
  rw [margin_placeLine hline.1, lineLevel, hstart]
  cases isCaseLabel (trim line)
  · simp
    omega
  · simp

/-! ## Alignment -/

/-- The closing brace of a block closes the brace at the end of its head. -/
theorem closes_placeLine (hhead : trim head = front ++ ['\x7b']) (hclosing : trim closing = ['\x7d'])
    (hbody : IsCode body) (width depth : Int) :
    Closes (placeLine width depth head) (placeLines width (depth + 1) body)
      (placeLine width (depth + 1) closing) where
  closesBlock_eq := by
    rw [trim_placeLine, hclosing]
    rfl
  balanced := by
    obtain ⟨spaces, -, hplaced⟩ := exists_placeLine_eq width depth head
    refine ⟨spaces ++ front, [], by rw [hplaced, hhead, List.append_assoc], ?_⟩
    exact hbody.balanced width (depth + 1)

/-- A property of each line of a text, given the lines before and behind it, holds of two texts put
together if it holds of the lines of the first in front of the second, and of those of the second
behind the first. -/
theorem forall_line_append {P : List (List Char) → List Char → List (List Char) → Prop}
    {first second : List (List Char)}
    (hfirst : ∀ before line after, first = before ++ line :: after →
      P before line (after ++ second))
    (hsecond : ∀ before line after, second = before ++ line :: after →
      P (first ++ before) line after) :
    ∀ before line after, first ++ second = before ++ line :: after → P before line after := by
  intro before line after h
  rcases List.append_eq_append_iff.mp h with ⟨rest, rfl, hrest⟩ | ⟨rest, rfl, hrest⟩
  · exact hsecond rest line after hrest
  · cases rest with
    -- The line is the first one of the second text.
    | nil =>
      rw [List.nil_append] at hrest
      simpa using hsecond [] line after hrest.symm
    | cons next rest =>
      obtain ⟨rfl, rfl⟩ := List.cons_eq_cons.mp hrest
      exact hfirst before line rest rfl

/-- Every line of a text is aligned. -/
def AllAligned (lines : List (List Char)) : Prop :=
  ∀ before line after, lines = before ++ line :: after → Aligned before line after

/-- Aligned texts put together are aligned. -/
theorem AllAligned.append {first second : List (List Char)} (hfirst : AllAligned first)
    (hsecond : AllAligned second) : AllAligned (first ++ second) := by
  refine forall_line_append (fun before line after h => ?_) fun before line after h => ?_
  · simpa using (hfirst before line after h).extend [] second
  · simpa using (hsecond before line after h).extend first []

/-- A line whose braces match has nothing to be aligned with. -/
theorem aligned_of_balanced (h : Balanced (trim line)) (before after : List (List Char)) :
    Aligned before line after where
  closing hcloses := absurd (beq_iff_eq.mp hcloses) h.head?_ne
  switch hopens := by
    rw [opensSwitch, Bool.and_eq_true, beq_iff_eq] at hopens
    exact absurd hopens.2 h.getLast?_ne
  enum hopens := by
    rw [opensEnum, Bool.and_eq_true, beq_iff_eq] at hopens
    exact absurd hopens.2 h.getLast?_ne

/-- The head of a block is aligned with its lines. -/
theorem aligned_head (hhead : trim head = front ++ ['\x7b']) (hfront : Balanced front)
    (hlabel : isCaseLabel (trim head) = false) (hclosing : trim closing = ['\x7d'])
    (hswitch : opensSwitch head = true → IsSwitchBody body)
    (henum : opensEnum head = true → IsEnumBody body) (hbody : IsCode body) (hdepth : 0 ≤ depth)
    (lines : List (List Char)) :
    Aligned [] (placeLine 4 depth head) (placeLines 4 (depth + 1) body ++
      placeLine 4 (depth + 1) closing :: lines) where
  closing hcloses := by
    rw [trim_placeLine, closesBlock_head hhead hfront] at hcloses
    cases hcloses
  switch hopens := by
    rw [opensSwitch, trim_placeLine, ← opensSwitch] at hopens
    have hlines := hswitch hopens
    refine ⟨_, _, _, rfl, closes_placeLine hhead hclosing hbody 4 depth, ?_⟩
    rw [placeLines_of_forall fun line hline => (hlines line hline).1]
    intro placed hplaced
    obtain ⟨statement, hstatement, rfl⟩ := List.mem_map.mp hplaced
    obtain ⟨hflat, hguess⟩ := hlines statement hstatement
    have hkept : IsSwitchLabel (placeLine 4 (depth + 1) statement) ↔ IsSwitchLabel statement := by
      rw [IsSwitchLabel, trim_placeLine, ← IsSwitchLabel]
    rw [hkept, ← hguess, margin_body hdepth hflat, margin_head hhead hfront hlabel]
    exact ⟨fun h => by rw [if_pos h, Nat.add_zero], fun h => by rw [if_neg h]⟩
  enum hopens := by
    rw [opensEnum, trim_placeLine, ← opensEnum] at hopens
    have hlines := henum hopens
    refine ⟨_, _, _, rfl, closes_placeLine hhead hclosing hbody 4 depth, ?_⟩
    rw [placeLines_of_forall fun line hline => (hlines line hline).1]
    intro placed hplaced
    obtain ⟨enumCase, henumCase, rfl⟩ := List.mem_map.mp hplaced
    obtain ⟨hflat, hguess⟩ := hlines enumCase henumCase
    rw [margin_body hdepth hflat, hguess, margin_head hhead hfront hlabel]
    rfl

/-- The closing brace of a block is aligned with its head. -/
theorem aligned_closing (hhead : trim head = front ++ ['\x7b']) (hfront : Balanced front)
    (hlabel : isCaseLabel (trim head) = false) (hclosing : trim closing = ['\x7d'])
    (hbody : IsCode body) (depth : Int) (lines : List (List Char)) :
    Aligned (placeLine 4 depth head :: placeLines 4 (depth + 1) body)
      (placeLine 4 (depth + 1) closing) lines where
  closing _ := by
    refine ⟨[], _, _, rfl, closes_placeLine hhead hclosing hbody 4 depth, ?_⟩
    rw [margin_closing hclosing, margin_head hhead hfront hlabel]
  switch hopens := by
    rw [opensSwitch, trim_placeLine, hclosing] at hopens
    exact absurd hopens (by decide)
  enum hopens := by
    rw [opensEnum, trim_placeLine, hclosing] at hopens
    exact absurd hopens (by decide)

/-- A block is aligned if its head, the lines between its braces and its closing brace are, and so
is what follows. -/
theorem AllAligned.block (hhead : Aligned [] head (body ++ closing :: lines))
    (hbody : AllAligned body) (hclosing : Aligned (head :: body) closing lines)
    (hlines : AllAligned lines) : AllAligned (head :: (body ++ closing :: lines)) := by
  intro before line after h
  cases before with
  | nil =>
    obtain ⟨rfl, rfl⟩ := List.cons_eq_cons.mp h
    exact hhead
  | cons first before =>
    obtain ⟨rfl, hrest⟩ := List.cons_eq_cons.mp h
    -- The line is one of the body, the closing brace, or one that follows.
    refine forall_line_append (P := fun before line after => Aligned (head :: before) line after)
      (fun before line after h => ?_) (fun before line after h => ?_) before line after hrest
    · exact (hbody before line after h).extend [head] (closing :: lines)
    · cases before with
      | nil =>
        obtain ⟨rfl, rfl⟩ := List.cons_eq_cons.mp h
        rwa [List.append_nil]
      | cons second before =>
        obtain ⟨rfl, hbehind⟩ := List.cons_eq_cons.mp h
        simpa using (hlines before line after hbehind).extend (head :: (body ++ [closing])) []

/-- Every line of indented code is aligned. -/
theorem IsCode.aligned (h : IsCode lines) (hdepth : 0 ≤ depth) :
    AllAligned (placeLines 4 depth lines) := by
  -- The induction is over the blocks, and each one raises the depth for the lines between its
  -- braces, so the depth is kept general.
  induction h generalizing depth with
  | nil => exact fun before line after h => absurd h (by simp [placeLines])
  | @line line lines hline _ ih =>
    rw [placeLines, depthAfter_of_balanced hline]
    have hfirst : AllAligned [placeLine 4 depth line] := by
      intro before placed after h
      obtain ⟨rfl, rfl, rfl⟩ : before = [] ∧ placed = placeLine 4 depth line ∧ after = [] := by
        simpa [List.singleton_eq_append_iff] using h
      exact aligned_of_balanced (by rwa [trim_placeLine]) _ _
    exact hfirst.append (ih hdepth)
  | @block head front closing body lines hhead hfront hlabel hclosing hswitch henum hbody _ ihbody
      ih =>
    rw [placeLines_block hhead hfront hclosing hbody]
    exact .block
      (aligned_head hhead hfront hlabel hclosing hswitch henum hbody hdepth _)
      (ihbody (by omega)) (aligned_closing hhead hfront hlabel hclosing hbody depth _) (ih hdepth)

end SyntaxBridge.Swift
