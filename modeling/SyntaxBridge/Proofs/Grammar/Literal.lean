import SyntaxBridge.Grammar.Literal
import SyntaxBridge.Proofs.Text.Cutting

/-!
# Literals and what is left without them

A literal is a *body* between two quotes. A body holds neither quotes nor line feeds, except that a
quote may stand behind a backslash, as may any other character. Erasing leaves a space in the place
of each literal and everything else as it is (`erase?_literal`, `erase?_append`), so that words that
a literal stands between stay apart (`isBlank_head?_erase?`).
-/

namespace SyntaxBridge.Literal

open Text

/-- The texts that may stand between the quotes of a literal. -/
inductive IsBody : List Char → Prop
  /-- Nothing need stand between the quotes. -/
  | nil : IsBody []
  /-- A character that stands for itself. -/
  | plain {c : Char} {body : List Char} (hquote : c ≠ '"') (hslash : c ≠ '\\') (hend : c ≠ '\n') :
    IsBody body → IsBody (c :: body)
  /-- A backslash takes the next character along. -/
  | escaped {c : Char} {body : List Char} (hend : c ≠ '\n') :
    IsBody body → IsBody ('\\' :: c :: body)

/-- A body between quotes. -/
inductive IsLiteral : List Char → Prop
  | quoted {body : List Char} : IsBody body → IsLiteral ('"' :: body ++ ['"'])

/-- Characters that stand for themselves make up a body. -/
theorem isBody_of_forall {body : List Char} (h : ∀ c ∈ body, c ≠ '"' ∧ c ≠ '\\' ∧ c ≠ '\n') :
    IsBody body := by
  induction body with
  | nil => exact .nil
  | cons c body ih =>
    obtain ⟨hquote, hslash, hend⟩ := h c List.mem_cons_self
    exact .plain hquote hslash hend (ih fun d hd => h d (List.mem_cons_of_mem _ hd))

/-- A literal ends in a quote. -/
theorem IsLiteral.ends {literal : List Char} (h : IsLiteral literal) :
    literal ≠ [] ∧ ∀ c ∈ literal.getLast?, isBlank c = false := by
  obtain @⟨body, _⟩ := h
  refine ⟨by simp, fun c hc => ?_⟩
  rw [List.getLast?_concat, Option.mem_some_iff] at hc
  rw [← hc]
  decide

/-- A body is read up to the quote that ends it. -/
theorem rest?_body {body : List Char} (h : IsBody body) (after : List Char) :
    rest? (body ++ '"' :: after) = some after := by
  induction h with
  | nil => rw [List.nil_append, rest?]
  | plain hquote hslash _ _ ih =>
    rw [List.cons_append, rest?.eq_5 _ _ hquote (fun _ _ h _ => hslash h) fun h _ => hslash h, ih]
  | escaped hend _ ih => rw [List.cons_append, List.cons_append, rest?, if_neg hend, ih]

/-- A literal leaves a space. -/
theorem erase?_literal {literal : List Char} (h : IsLiteral literal) (after : List Char) :
    erase? (literal ++ after) = (erase? after).map (' ' :: ·) := by
  obtain @⟨body, hbody⟩ := h
  have hrest : rest? (body ++ ['"'] ++ after) = some after := by
    simpa using rest?_body hbody after
  rw [List.cons_append, List.cons_append, erase?, if_pos rfl]
  split
  next found hfound =>
    rw [hrest] at hfound
    cases hfound
    rfl
  next hnone =>
    rw [hrest] at hnone
    cases hnone

/-- A character that is no quote is left alone. -/
theorem erase?_cons_of_ne {c : Char} (h : c ≠ '"') (after : List Char) :
    erase? (c :: after) = (erase? after).map (c :: ·) := by
  rw [erase?, if_neg h]

/-- What holds no quote is left alone. -/
theorem erase?_append {cs : List Char} (h : '"' ∉ cs) (after : List Char) :
    erase? (cs ++ after) = (erase? after).map (cs ++ ·) := by
  induction cs with
  | nil => simp
  | cons c cs ih =>
    rw [List.mem_cons, not_or] at h
    rw [List.cons_append, erase?_cons_of_ne (Ne.symm h.1), ih h.2, Option.map_map]
    rfl

/-- A text without quotes is left as it is. -/
theorem erase?_eq_self {cs : List Char} (h : '"' ∉ cs) : erase? cs = some cs := by
  have herase : erase? (cs ++ []) = some (cs ++ []) := by
    rw [erase?_append h, erase?, Option.map_some]
  rwa [List.append_nil] at herase

/-- What is left of a text starts with white space if the text starts with white space or with a
literal. -/
theorem isBlank_head?_erase? {cs bare : List Char} (h : erase? cs = some bare)
    (hhead : ∀ c ∈ cs.head?, isBlank c = true ∨ c = '"') : ∀ c ∈ bare.head?, isBlank c = true := by
  cases cs with
  | nil =>
    rw [erase?] at h
    cases h
    simp
  | cons c cs =>
    rw [erase?] at h
    split at h
    next =>
      split at h
      next =>
        obtain ⟨_, _, rfl⟩ := Option.map_eq_some_iff.mp h
        simp [isBlank]
      next => cases h
    next hquote =>
      obtain ⟨_, _, rfl⟩ := Option.map_eq_some_iff.mp h
      simpa using (hhead c rfl).resolve_right hquote

end SyntaxBridge.Literal
