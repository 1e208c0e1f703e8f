import Mathlib.Data.List.Basic
import Mathlib.Data.String.Basic
import SyntaxBridge.Grammar.Rule
import SyntaxBridge.Proofs.Text.Quoted

/-!
# Rules as they are shown

What a rule is shown as determines the rule up to its line. The names in it are quoted, so none of
them can be taken for what stands around it, and a list of names ends where no further name
follows.

## Main results

* `showNames_append_inj`: what starts with a list of names starts with that of one list only.
* `describe_eq_iff`: two rules are shown alike just if they are the same apart from their lines.
-/

namespace SyntaxBridge.Rule

open Text

/-! ## Lists of names -/

/-- The names after the first one, each after a comma. -/
def moreNames (names : List String) : List Char :=
  names.flatMap fun name => ',' :: ' ' :: quote name.toList

/-- What follows the first name of a list. After a single name there is a comma too. -/
def afterFirst : List String → List Char
  | [] => [',', ')']
  | names => moreNames names ++ [')']

theorem toList_intercalate_quoted (first : String) (names : List String) :
    (", ".intercalate ((first :: names).map quoted)).toList =
      quote first.toList ++ moreNames names := by
  induction names generalizing first with
  | nil => simp [moreNames, quoted]
  | cons second names ih =>
    rw [List.map_cons, List.map_cons, String.intercalate_cons_cons, ← List.map_cons,
      String.toList_append, String.toList_append, ih]
    simp [moreNames, quoted]

theorem toList_showNames_cons (first : String) (names : List String) :
    (showNames (first :: names)).toList = '(' :: quote first.toList ++ afterFirst names := by
  cases names with
  | nil => simp [showNames, afterFirst, quoted]
  | cons second names =>
    simp only [showNames, String.toList_append, toList_intercalate_quoted]
    simp [afterFirst]

/-- The names after the first one end where no comma follows. -/
theorem moreNames_append_inj {xs ys : List String} {s t : List Char}
    (h : moreNames xs ++ ')' :: s = moreNames ys ++ ')' :: t) : xs = ys ∧ s = t := by
  induction xs generalizing ys with
  | nil =>
    cases ys with
    | nil => simpa [moreNames] using h
    | cons y ys => simp [moreNames] at h
  | cons x xs ih =>
    cases ys with
    | nil => simp [moreNames] at h
    | cons y ys =>
      simp only [moreNames, List.flatMap_cons, List.cons_append, List.append_assoc,
        List.cons.injEq, true_and] at h
      obtain ⟨same, rest⟩ := quote_append_inj h
      obtain ⟨rfl, rfl⟩ := ih rest
      exact ⟨congrArg (· :: xs) (String.toList_injective same), rfl⟩

/-- The comma after a single name is followed by no blank, so it starts no further name. -/
theorem afterFirst_append_inj {xs ys : List String} {s t : List Char}
    (h : afterFirst xs ++ s = afterFirst ys ++ t) : xs = ys ∧ s = t := by
  match xs, ys with
  | [], [] => simpa [afterFirst] using h
  | [], y :: ys => simp [afterFirst, moreNames] at h
  | x :: xs, [] => simp [afterFirst, moreNames] at h
  | x :: xs, y :: ys =>
    simp only [afterFirst, List.append_assoc, List.singleton_append] at h
    exact moreNames_append_inj h

/-- What starts with a list of names starts with that of one list only. -/
theorem showNames_append_inj {xs ys : List String} {s t : List Char}
    (h : (showNames xs).toList ++ s = (showNames ys).toList ++ t) : xs = ys ∧ s = t := by
  have empty : (showNames []).toList = ['(', ')'] := rfl
  -- A list with a first name goes on with a quote, the empty one with the closing parenthesis.
  have quote_ne (name : String) (rest after : List Char) :
      quote name.toList ++ rest ≠ ')' :: after := by
    obtain ⟨q, shown, hq, eq⟩ := exists_quote_eq name.toList
    rcases hq with rfl | rfl <;> simp [eq]
  match xs, ys with
  | [], [] => simpa [empty] using h
  | [], y :: ys =>
    simp only [empty, toList_showNames_cons, List.cons_append, List.append_assoc, List.nil_append,
      List.cons.injEq, true_and] at h
    exact absurd h.symm (quote_ne y _ _)
  | x :: xs, [] =>
    simp only [empty, toList_showNames_cons, List.cons_append, List.append_assoc, List.nil_append,
      List.cons.injEq, true_and] at h
    exact absurd h (quote_ne x _ _)
  | x :: xs, y :: ys =>
    simp only [toList_showNames_cons, List.cons_append, List.append_assoc, List.cons.injEq,
      true_and] at h
    obtain ⟨same, rest⟩ := quote_append_inj h
    obtain ⟨rfl, rfl⟩ := afterFirst_append_inj rest
    exact ⟨congrArg (· :: xs) (String.toList_injective same), rfl⟩

/-! ## Rules -/

theorem quoted_append_inj {a b : String} {s t : List Char}
    (h : (quoted a).toList ++ s = (quoted b).toList ++ t) : a = b ∧ s = t := by
  rw [quoted, quoted, String.toList_ofList, String.toList_ofList] at h
  obtain ⟨same, rest⟩ := quote_append_inj h
  exact ⟨String.toList_injective same, rest⟩

theorem describe_constructor (rule : Constructor) :
    (constructor rule).describe = "Constructor(" ++ quoted rule.label ++ ", " ++ quoted rule.type ++
      ", " ++ showNames rule.construction ++ ")" := rfl

theorem describe_token (rule : Token) :
    (token rule).describe = "Token(" ++ quoted rule.type ++ ")" := rfl

theorem describe_entrypoint (rule : Entrypoint) :
    (entrypoint rule).describe = "Entrypoint(" ++ showNames rule.types ++ ")" := rfl

/-- The line is not shown. -/
theorem describe_withoutLine (rule : Rule) : rule.withoutLine.describe = rule.describe := by
  cases rule <;> rfl

/-- What a constructor is shown as determines all of it but its line. -/
theorem eq_of_describe_constructor_eq {a b : Constructor}
    (h : (constructor a).describe = (constructor b).describe) :
    a.label = b.label ∧ a.type = b.type ∧ a.construction = b.construction := by
  have text := congrArg String.toList h
  simp only [describe_constructor, String.toList_append, List.append_assoc,
    List.append_right_inj] at text
  obtain ⟨label, rest⟩ := quoted_append_inj text
  rw [List.append_right_inj] at rest
  obtain ⟨type, rest⟩ := quoted_append_inj rest
  rw [List.append_right_inj] at rest
  exact ⟨label, type, (showNames_append_inj rest).1⟩

/-- The first character that a rule is shown with. -/
def initial : Rule → Char
  | constructor _ => 'C'
  | token _ => 'T'
  | entrypoint _ => 'E'

/-- The first character tells the kinds of rules apart. -/
theorem head?_describe (rule : Rule) : rule.describe.toList.head? = some rule.initial := by
  have hstart {start rest : String} {c : Char} (h : start.toList.head? = some c) :
      (start ++ rest).toList.head? = some c := by
    rw [String.toList_append, List.head?_append, h, Option.some_or]
  cases rule
  all_goals
    simp only [describe_constructor, describe_token, describe_entrypoint, String.append_assoc]
    exact hstart rfl

/-- What a rule is shown as determines all of it but its line. -/
theorem withoutLine_eq_of_describe_eq {a b : Rule} (h : a.describe = b.describe) :
    a.withoutLine = b.withoutLine := by
  have kinds : a.initial = b.initial := by
    rw [← Option.some.injEq, ← head?_describe, h, head?_describe]
  have text := congrArg String.toList h
  cases a <;> cases b
  case constructor.constructor a b =>
    obtain ⟨label, type, construction⟩ := eq_of_describe_constructor_eq h
    simp [withoutLine, label, type, construction]
  case token.token a b =>
    simp only [describe_token, String.toList_append, List.append_assoc,
      List.append_right_inj] at text
    simp [withoutLine, (quoted_append_inj text).1]
  case entrypoint.entrypoint a b =>
    simp only [describe_entrypoint, String.toList_append, List.append_assoc,
      List.append_right_inj] at text
    simp [withoutLine, (showNames_append_inj text).1]
  all_goals exact absurd kinds (by simp [initial])

/-- Two rules are shown alike just if they are the same. -/
theorem describe_eq_iff (a b : Rule) : a.describe = b.describe ↔ a.same b = true := by
  rw [same, beq_iff_eq]
  constructor
  · exact withoutLine_eq_of_describe_eq
  · intro h
    rw [← describe_withoutLine a, h, describe_withoutLine]

end SyntaxBridge.Rule
