import SyntaxBridge.Grammar.Parser
import SyntaxBridge.Proofs.Grammar.Relocation.Reading

/-!
# Faults of a declaration

Whatever is wrong with a declaration that is read by itself, it is *unreadable*: contradictions only
arise between declarations. The error names the line that was read, by its text and by its number
(`parseLine_eq_error`), and the rules of a line that can be read all stand on it
(`line_of_parseLine_eq_ok`).
-/

namespace SyntaxBridge

open Outcome

/-- An outcome of reading is a value, or the cause of a declaration that cannot be read. -/
abbrev Unreadable {α : Type} (x : Except Cause α) : Prop :=
  ErrorsHave (·.kind = .unreadable) x

namespace Parser

variable (line : LineNumber)

theorem unreadable_cleanType (text : List Char) : Unreadable (cleanType text) := by
  fun_induction cleanType text with
  | case1 text inner _ _ ih => exact ih.bind fun _ _ => errorsHave_ok _
  | case2 => exact errorsHave_error.mpr rfl
  | case3 => exact errorsHave_ok _

theorem unreadable_cleanConstruction (text : List Char) : Unreadable (cleanConstruction text) := by
  unfold cleanConstruction
  split
  · exact errorsHave_error.mpr rfl
  · exact .mapM fun word _ => unreadable_cleanType word

theorem unreadable_readToken (rule : List Char) : Unreadable (readToken line rule) := by
  unfold readToken
  split
  · exact (unreadable_cleanType _).bind fun _ _ => errorsHave_ok _
  · exact errorsHave_error.mpr rfl

theorem unreadable_readEntrypoint (text : List Char) : Unreadable (readEntrypoint line text) := by
  refine ErrorsHave.bind (.mapM fun word _ => unreadable_cleanType word) fun types _ => ?_
  split_ifs
  · exact errorsHave_error.mpr rfl
  · exact errorsHave_ok _

theorem unreadable_readAlternative (type alternative : List Char) (number : Nat) :
    Unreadable (readAlternative line type alternative number) := by
  unfold readAlternative
  split_ifs
  · exact errorsHave_error.mpr rfl
  · exact (unreadable_cleanConstruction _).bind fun _ _ => errorsHave_ok _

/-- The alternatives of a shorthand are read one by one, and each may be at fault. -/
theorem unreadable_readAlternatives (text : List Char) :
    Unreadable (readAlternatives line text >>= fun rules => rules.mapM id) := by
  unfold readAlternatives
  rcases Text.cutAt? definitionMark text with _ | ⟨typeText, definition⟩
  · exact errorsHave_error.mpr rfl
  rw [bind_assoc]
  refine (unreadable_cleanType typeText).bind fun type _ => ?_
  dsimp only
  split_ifs
  · exact errorsHave_error.mpr rfl
  · refine ErrorsHave.mapM fun rule hrule => ?_
    obtain ⟨i, _, rfl⟩ := List.mem_mapIdx.mp hrule
    exact unreadable_readAlternative line type _ (i + 1)

theorem unreadable_readConstructor (rule : List Char) : Unreadable (readConstructor line rule) := by
  rcases hdefinition : Text.cutAt? definitionMark rule with _ | ⟨head, definition⟩
  · rw [readConstructor, hdefinition]
    exact errorsHave_error.mpr rfl
  rcases hdot : Text.cutAt? ['.'] head with _ | ⟨labelText, typeText⟩
  · rw [readConstructor, hdefinition]
    dsimp only
    rw [hdot]
    exact errorsHave_error.mpr rfl
  rw [readConstructor_of_cutAt? _ hdefinition hdot]
  split_ifs
  · exact errorsHave_error.mpr rfl
  · exact errorsHave_ok _
  · exact errorsHave_error.mpr rfl
  · exact errorsHave_error.mpr rfl
  · refine (unreadable_cleanType typeText).bind fun _ _ => ?_
    exact (unreadable_cleanConstruction definition).bind fun _ _ => errorsHave_ok _

theorem unreadable_declaration (text : List Char) : Unreadable (declaration text) := by
  unfold declaration
  dsimp only
  by_cases hend : (Text.trim text).getLast? ≠ some ';'
  · rw [if_pos hend]
    exact errorsHave_error.mpr rfl
  rw [if_neg hend]
  split_ifs
  · exact errorsHave_error.mpr rfl
  · exact errorsHave_ok _

/-- Reading the rules of a line fails for a cause that lies in the line. -/
theorem unreadable_readRules (text : List Char) :
    Unreadable (readRules line text >>= fun rules => rules.mapM id) := by
  -- A declaration of one rule gives the list of that rule, which is a value.
  have hvalues (rules : List Rule) :
      Unreadable ((rules.map .ok : List (Except Cause Rule)).mapM id) := by
    refine .mapM fun rule hrule => ?_
    obtain ⟨_, _, rfl⟩ := List.mem_map.mp hrule
    exact errorsHave_ok _
  unfold readRules
  rw [bind_assoc]
  refine (unreadable_declaration text).bind fun rule _ => ?_
  dsimp only
  split_ifs
  · exact hvalues []
  · rw [bind_assoc]
    exact (unreadable_readToken line rule).bind fun _ _ => hvalues [_]
  · rw [bind_assoc]
    exact (unreadable_readEntrypoint line _).bind fun _ _ => hvalues [_]
  · exact unreadable_readAlternatives line _
  · rw [bind_assoc]
    exact (unreadable_readConstructor line rule).bind fun _ _ => hvalues _

/-- The error of a line names that line. -/
theorem parseLine_eq_error {text : String} {line : LineNumber} {e : GrammarError}
    (h : parseLine text line = .error e) :
    e.cause.kind = .unreadable ∧ e.line = line ∧ e.text = text := by
  unfold parseLine at h
  have hunreadable := unreadable_readRules line text.toList
  cases hread : readRules line text.toList >>= fun rules => rules.mapM id with
  | ok rules =>
    rw [hread] at h
    cases h
  | error cause =>
    rw [hread] at h
    cases h
    exact ⟨hunreadable cause hread, rfl, rfl⟩

/-- The rules of a line stand on that line. -/
theorem line_of_parseLine_eq_ok {text : String} {line : LineNumber} {rules : List Rule}
    (h : parseLine text line = .ok rules) {rule : Rule} (hmem : rule ∈ rules) :
    rule.line = line := by
  -- Moving all lines to this one leaves the rules as they are.
  have hrelocate := parseLine_relocate (fun _ => line) line text
  rw [h] at hrelocate
  have hrules : rules = rules.map (Rule.relocate fun _ => line) := Except.ok.inj hrelocate
  rw [hrules] at hmem
  obtain ⟨original, _, rfl⟩ := List.mem_map.mp hmem
  cases original <;> rfl

end Parser

end SyntaxBridge
