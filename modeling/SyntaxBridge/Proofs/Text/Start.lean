import Mathlib.Data.List.Basic

/-!
# Texts that start alike

`startsWith` tells generated lines apart by what they start with. A text that goes on with parts
that are not known starts like its known front does (`startsWith_append_eq_false`), and a name that
is ended by a mark is read off whole (`startsWith_name_append`).
-/

namespace SyntaxBridge.Text

/-- Whether a text starts with another. -/
def startsWith (start text : String) : Bool :=
  start.toList.isPrefixOf text.toList

variable {start front text : String}

theorem startsWith_iff : startsWith start text = true ↔ start.toList <+: text.toList :=
  List.isPrefixOf_iff_prefix

theorem startsWith_ofList (start : String) (cs : List Char) :
    startsWith start (String.ofList cs) = start.toList.isPrefixOf cs :=
  congrArg (start.toList.isPrefixOf ·) String.toList_ofList

/-- A text starts with another if it goes on from it. -/
theorem startsWith_iff_exists_append :
    startsWith start text = true ↔ ∃ back, text = start ++ back := by
  rw [startsWith_iff]
  constructor
  · rintro ⟨back, h⟩
    refine ⟨String.ofList back, String.toList_inj.mp ?_⟩
    rw [String.toList_append, String.toList_ofList, h]
  · rintro ⟨back, rfl⟩
    rw [String.toList_append]
    exact List.prefix_append _ _

@[simp]
theorem startsWith_append_self (start back : String) : startsWith start (start ++ back) = true :=
  startsWith_iff_exists_append.mpr ⟨back, rfl⟩

/-- A common front does not matter. -/
@[simp]
theorem startsWith_append_append (front start text : String) :
    startsWith (front ++ start) (front ++ text) = startsWith start text := by
  rw [Bool.eq_iff_iff, startsWith_iff, startsWith_iff, String.toList_append, String.toList_append,
    List.prefix_append_right_inj]

/-- What starts with more starts with less. -/
theorem startsWith_of_startsWith_append {back : String}
    (h : startsWith (start ++ back) text = true) : startsWith start text = true := by
  rw [startsWith_iff, String.toList_append] at h
  exact startsWith_iff.mpr ((List.prefix_append _ _).trans h)

/-- A text starts in the way that its front does. -/
theorem startsWith_append (back : String) (h : startsWith start front = true) :
    startsWith start (front ++ back) = true := by
  rw [startsWith_iff, String.toList_append]
  exact (startsWith_iff.mp h).trans (List.prefix_append _ _)

/-- A text does not start in a way that its front rules out. -/
theorem startsWith_append_eq_false (back : String) (hstart : startsWith start front = false)
    (hfront : startsWith front start = false) : startsWith start (front ++ back) = false := by
  rw [Bool.eq_false_iff] at *
  intro h
  rw [startsWith_iff, String.toList_append] at h
  -- Of two texts that start the same text, one starts the other.
  rcases List.prefix_or_prefix_of_prefix h (List.prefix_append _ _) with h | h
  · exact hstart (startsWith_iff.mpr h)
  · exact hfront (startsWith_iff.mpr h)

/-- Texts with different fronts do not start alike. -/
theorem startsWith_append_append_eq_false (more back : String)
    (hstart : startsWith start front = false) (hfront : startsWith front start = false) :
    startsWith (start ++ more) (front ++ back) = false := by
  rw [Bool.eq_false_iff]
  intro h
  have hless := startsWith_of_startsWith_append h
  rw [startsWith_append_eq_false back hstart hfront] at hless
  exact Bool.false_ne_true hless

/-- Texts with different first characters do not start alike. -/
theorem startsWith_eq_false_of_head? {c d : Char} (hstart : start.toList.head? = some c)
    (htext : text.toList.head? = some d) (hne : c ≠ d) : startsWith start text = false := by
  rw [Bool.eq_false_iff]
  intro h
  obtain ⟨rest, hrest⟩ := startsWith_iff.mp h
  obtain ⟨more, hmore⟩ := List.head?_eq_some_iff.mp hstart
  rw [← hrest, hmore] at htext
  exact hne (Option.some.inj htext)

/-- Where two names are ended by the same mark, one starts like the other exactly if they are the
same. -/
theorem startsWith_name_append {name other mark : String} {c : Char} (hmark : mark.toList = [c])
    (hname : c ∉ name.toList) (hother : c ∉ other.toList) (back : String) :
    startsWith (name ++ mark) (other ++ mark ++ back) = (name == other) := by
  rw [Bool.eq_iff_iff, beq_iff_eq, startsWith_iff]
  simp only [String.toList_append, hmark]
  constructor
  · rintro ⟨rest, h⟩
    -- Both names are what comes before the first mark.
    have hbefore {cs : List Char} (hcs : c ∉ cs) (later : List Char) :
        (cs ++ c :: later).takeWhile (· != c) = cs := by
      rw [List.takeWhile_append_of_pos, List.takeWhile_cons_of_neg, List.append_nil]
      · simp
      · exact fun d hd => bne_iff_ne.mpr fun heq => hcs (heq ▸ hd)
    simp only [List.append_assoc, List.singleton_append] at h
    rw [← String.toList_inj, ← hbefore hname rest, h, hbefore hother]
  · rintro rfl
    exact List.prefix_append _ _

end SyntaxBridge.Text
