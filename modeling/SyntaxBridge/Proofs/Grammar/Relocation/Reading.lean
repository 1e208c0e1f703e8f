import SyntaxBridge.Grammar.Source
import SyntaxBridge.Proofs.Grammar.Relocation

/-!
# Reading declarations on other lines

Reading a declaration looks at its line only to pass it on: on another line it gives the same rules
or the same error there (`parseLine_relocate`). The same holds for what is read off all rules
together, the entrypoints and the synthetic token, which stands on no line.
-/

namespace SyntaxBridge

open Outcome

variable (f : LineNumber → LineNumber)

/-! ## Reading a declaration -/

namespace Parser

variable (line : LineNumber)

theorem readToken_relocate (rule : List Char) :
    readToken (f line) rule = mapBoth id (Rule.relocate f) (readToken line rule) := by
  unfold readToken
  split
  next name _ _ => cases cleanType name <;> rfl
  next => rfl

theorem readEntrypoint_relocate (text : List Char) :
    readEntrypoint (f line) text = mapBoth id (Rule.relocate f) (readEntrypoint line text) := by
  unfold readEntrypoint
  cases ((Text.splitOn ',' text).filter (!Text.allBlank ·)).mapM cleanType with
  | error cause => rfl
  | ok types => cases types <;> rfl

theorem readAlternative_relocate (type alternative : List Char) (number : Nat) :
    readAlternative (f line) type alternative number =
      mapBoth id (Rule.relocate f) (readAlternative line type alternative number) := by
  unfold readAlternative
  split
  · rfl
  · cases cleanConstruction alternative <;> rfl

theorem readAlternatives_relocate (text : List Char) :
    readAlternatives (f line) text =
      mapBoth id (List.map (mapBoth id (Rule.relocate f))) (readAlternatives line text) := by
  unfold readAlternatives
  rcases Text.cutAt? definitionMark text with _ | ⟨typeText, definition⟩
  · rfl
  dsimp only
  cases cleanType typeText with
  | error _ => rfl
  | ok type =>
    generalize ((Text.splitOn '|' definition).map Text.trim).filter (!·.isEmpty) = alternatives
    cases alternatives with
    | nil => rfl
    | cons first others =>
      refine congrArg Except.ok (List.ext_getElem? fun i => ?_)
      rw [List.getElem?_mapIdx, List.getElem?_map, List.getElem?_mapIdx, Option.map_map]
      exact congrArg (Option.map · _) (funext fun alternative =>
        readAlternative_relocate f line type alternative (i + 1))

/-- The checks on a labelled rule that has its dot and its definition, in order. -/
theorem readConstructor_of_cutAt? {rule head definition labelText typeText : List Char}
    (hdefinition : Text.cutAt? definitionMark rule = some (head, definition))
    (hdot : Text.cutAt? ['.'] head = some (labelText, typeText)) :
    readConstructor line rule =
      if (cleanLabel labelText).isEmpty then .error .missingLabel
      else if discardedLabels.contains (String.ofList (cleanLabel labelText)) then .ok []
      else if Text.allBlank typeText then .error .missingType
      else if (Category.inner? (Text.trim typeText)).isSome then .error .labelledList
      else do
        let type ← cleanType typeText
        let construction ← cleanConstruction definition
        return [.constructor ⟨String.ofList (cleanLabel labelText), String.ofList type,
          toStrings construction, line⟩] := by
  rw [readConstructor, hdefinition]
  dsimp only
  rw [hdot]
  dsimp only
  split_ifs <;> rfl

theorem readConstructor_relocate (rule : List Char) :
    readConstructor (f line) rule =
      mapBoth id (List.map (Rule.relocate f)) (readConstructor line rule) := by
  -- A rule without a definition or without a dot is refused before its line matters.
  rcases hdefinition : Text.cutAt? definitionMark rule with _ | ⟨head, definition⟩
  · simp [readConstructor, hdefinition, throw, throwThe, MonadExceptOf.throw]
  rcases hdot : Text.cutAt? ['.'] head with _ | ⟨labelText, typeText⟩
  · simp [readConstructor, hdefinition, hdot, throw, throwThe, MonadExceptOf.throw]
  rw [readConstructor_of_cutAt? _ hdefinition hdot, readConstructor_of_cutAt? _ hdefinition hdot]
  split_ifs
  · rfl
  · rfl
  · rfl
  · rfl
  · cases cleanType typeText with
    | error _ => rfl
    | ok _ => cases cleanConstruction definition <;> rfl

/-- The entries of a declaration that stands on another line are those that it has. -/
theorem readRules_relocate (text : List Char) :
    readRules (f line) text =
      mapBoth id (List.map (mapBoth id (Rule.relocate f))) (readRules line text) := by
  unfold readRules
  cases declaration text with
  | error _ => rfl
  | ok rule =>
    change ite _ _ _ = mapBoth _ _ (ite _ _ _)
    -- What kind of declaration it is does not depend on the line.
    split_ifs
    · rfl
    · rw [readToken_relocate]
      cases readToken line rule <;> rfl
    · rw [readEntrypoint_relocate]
      cases readEntrypoint line _ <;> rfl
    · exact readAlternatives_relocate f line _
    · rw [readConstructor_relocate]
      cases readConstructor line rule with
      | error _ => rfl
      | ok rules => simp [bind, Except.bind, pure, Except.pure, Function.comp_def]

/-- A declaration on another line gives the same rules or the same error there. -/
theorem parseLine_relocate (text : String) :
    parseLine text (f line) = relocateRules f (parseLine text line) := by
  unfold parseLine
  rw [readRules_relocate]
  cases readRules line text.toList with
  | error _ => rfl
  | ok entries =>
    have hentries : (entries.map (mapBoth id (Rule.relocate f))).mapM id =
        mapBoth id (List.map (Rule.relocate f)) (entries.mapM id) :=
      mapM_mapBoth entries fun _ _ => rfl
    change Except.mapError _ ((entries.map _).mapM id) =
      relocateRules f (Except.mapError _ (entries.mapM id))
    rw [hentries]
    cases entries.mapM id <;> rfl

end Parser

variable (rules : List Rule)

/-- The synthetic token stands on no line, wherever the other rules stand. -/
theorem injectIdent_relocate (hf : f .unknown = .unknown) :
    injectIdent (rules.map (Rule.relocate f)) = (injectIdent rules).map (Rule.relocate f) := by
  have hdeclares : declaresIdent (rules.map (Rule.relocate f)) = declaresIdent rules := by
    rw [declaresIdent, filterMap_token?_relocate, List.any_map]
    rfl
  have hrefers : refersToIdent (rules.map (Rule.relocate f)) = refersToIdent rules := by
    rw [refersToIdent, references_relocate, refersToIdent]
  rw [injectIdent, injectIdent, hdeclares, hrefers]
  split_ifs
  · rw [List.map_append]
    simp [Rule.relocate, Token.relocate, hf]
  · rfl

/-- The entrypoints of relocated rules are the same, and refused on the other line. -/
theorem entrypointTypes_relocate :
    entrypointTypes (rules.map (Rule.relocate f)) =
      mapBoth (GrammarError.relocate f) id (entrypointTypes rules) := by
  rw [entrypointTypes, filterMap_entrypoint?_relocate, entrypointTypes]
  rcases rules.filterMap Rule.entrypoint? with _ | ⟨first, _ | ⟨second, others⟩⟩
  · have hconstructor : (rules.map (Rule.relocate f)).findSome? Rule.constructor? =
        (rules.findSome? Rule.constructor?).map (Constructor.relocate f) := by
      simp [List.findSome?_map, Function.comp_def, List.map_findSome?]
    simp only [List.map_nil, hconstructor, Option.map_map]
    rfl
  · rfl
  · rfl

end SyntaxBridge
