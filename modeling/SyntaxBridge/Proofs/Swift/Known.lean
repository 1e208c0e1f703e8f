import SyntaxBridge.Proofs.Grammar.Partition
import SyntaxBridge.Proofs.Swift.Name

/-!
# Known categories

A grammar that refers to known categories and to lists of them (`RefersToKnown`) uses nothing else:
what it refers to, its entrypoints and the elements of its list categories are known, or are lists
of what is known (`usable_of_mem_references`, `usable_of_mem_entrypoints`,
`known_of_mem_listTypes`).
-/

namespace SyntaxBridge.Swift

variable {rules : List Rule} {extra : ExtraCases} {policy : BoxPolicy} {grammar : Grammar}
  {category : String}

/-- A category is predefined or declared. -/
def Known (grammar : Grammar) (category : String) : Prop :=
  category ∈ scalarNames ∨ category ∈ grammar.groups.map (·.name)

/-- A grammar refers to known categories and lists of them, and declares no name that is taken. -/
structure RefersToKnown (grammar : Grammar) : Prop where
  /-- Parts of alternatives and entrypoints are known or are lists of what is known. -/
  known : ∀ name ∈ references grammar.rules,
    Known grammar name ∨ ∃ type, Known grammar type ∧ name = Category.listOf type
  /-- Declared categories are named by identifiers. -/
  isAsciiIdentifier : ∀ group ∈ grammar.groups, IsAsciiIdentifier group.name
  /-- No declared category is named like a predefined one. -/
  notMem_scalarNames : ∀ group ∈ grammar.groups, group.name ∉ scalarNames
  /-- No declared category is named like the type of a list that is used. -/
  ne_listName : ∀ group ∈ grammar.groups, ∀ type ∈ grammar.listTypes,
    group.name ≠ Category.listName (Category.listOf type)

/-- A known category, or a list category that is used, of a known one. -/
def Usable (grammar : Grammar) (category : String) : Prop :=
  Known grammar category ∨
    ∃ type ∈ grammar.listTypes, Known grammar type ∧ category = Category.listOf type

/-! ## Names of known categories -/

/-- Known categories are named by identifiers. -/
theorem Known.isAsciiIdentifier (hrefers : RefersToKnown grammar) (h : Known grammar category) :
    IsAsciiIdentifier category := by
  rcases h with h | h
  · exact isAsciiIdentifier_of_mem_scalarNames h
  · obtain ⟨group, hgroup, rfl⟩ := List.mem_map.mp h
    exact hrefers.isAsciiIdentifier group hgroup

/-- The type of a usable category is named by an identifier. -/
theorem Usable.isAsciiIdentifier_listName (hrefers : RefersToKnown grammar)
    (h : Usable grammar category) : IsAsciiIdentifier (Category.listName category) := by
  rcases h with h | ⟨type, _, h, rfl⟩
  · rw [listName_of_isAsciiIdentifier (h.isAsciiIdentifier hrefers)]
    exact h.isAsciiIdentifier hrefers
  · rw [listName_listOf (h.isAsciiIdentifier hrefers).ne_empty]
    exact (h.isAsciiIdentifier hrefers).list

/-! ## Where categories come from -/

/-- The list categories that are used are those that are referred to. -/
theorem mem_listTypes_iff_of_analyze (h : analyze rules extra policy = .ok grammar) :
    category ∈ grammar.listTypes ↔
      category ≠ "" ∧ Category.listOf category ∈ references grammar.rules := by
  rw [(isPartition_of_analyze h).mem_listTypes, rules_of_analyze h, references, List.mem_flatMap]
  rfl

/-- What is referred to can be used. -/
theorem usable_of_mem_references (h : analyze rules extra policy = .ok grammar)
    (hrefers : RefersToKnown grammar) (hmem : category ∈ references grammar.rules) :
    Usable grammar category := by
  rcases hrefers.known category hmem with hknown | ⟨type, hknown, rfl⟩
  · exact .inl hknown
  · have hne := (hknown.isAsciiIdentifier hrefers).ne_empty
    exact .inr ⟨type, (mem_listTypes_iff_of_analyze h).mpr ⟨hne, hmem⟩, hknown, rfl⟩

/-- The elements of the lists that are used are known. -/
theorem known_of_mem_listTypes (h : analyze rules extra policy = .ok grammar)
    (hrefers : RefersToKnown grammar) (hmem : category ∈ grammar.listTypes) :
    Known grammar category := by
  obtain ⟨hne, hreference⟩ := (mem_listTypes_iff_of_analyze h).mp hmem
  have helement := Category.element?_eq_some_iff.mpr ⟨hne, rfl⟩
  rcases hrefers.known _ hreference with hknown | ⟨type, hknown, heq⟩
  · -- A list category is not named by an identifier.
    rw [(hknown.isAsciiIdentifier hrefers).element?_eq_none] at helement
    cases helement
  · -- Brackets are taken off in one way only.
    have htype := (hknown.isAsciiIdentifier hrefers).ne_empty
    rw [heq, Category.element?_eq_some_iff.mpr ⟨htype, rfl⟩] at helement
    cases helement
    exact hknown

/-- Entrypoints are referred to or declared. -/
theorem mem_references_or_names_of_mem_entrypoints (h : analyze rules extra policy = .ok grammar)
    (hmem : category ∈ grammar.entrypoints) :
    category ∈ references grammar.rules ∨ category ∈ grammar.groups.map (·.name) := by
  rw [(isPartition_of_analyze h).entrypoints_eq] at hmem
  split at hmem
  next declared hdeclared =>
    -- Declared entrypoints are referred to.
    obtain ⟨rule, hrule, hentrypoint⟩ := List.exists_of_findSome?_eq_some hdeclared
    rw [rules_of_analyze h, references, List.mem_flatMap]
    refine .inl ⟨rule, hrule, ?_⟩
    cases rule with
    | entrypoint entrypoint =>
      cases hentrypoint
      exact hmem
    | _ => cases hentrypoint
  next =>
    -- The category of the first alternative is declared.
    rw [Option.mem_toList, Option.map_eq_some_iff] at hmem
    obtain ⟨first, hfirst, rfl⟩ := hmem
    obtain ⟨rule, hrule, hconstructor⟩ := List.exists_of_findSome?_eq_some hfirst
    rw [Rule.constructor?_eq_some_iff] at hconstructor
    refine .inr ((isPartition_of_analyze h).mem_names first.type |>.mpr ⟨rule, hrule, ?_⟩)
    exact hconstructor ▸ rfl

/-- The parts of the alternatives of a category are referred to. -/
theorem mem_references_of_mem_construction (h : analyze rules extra policy = .ok grammar)
    {group : Group} (hgroup : group ∈ grammar.groups) {alternative : Constructor}
    (halternative : alternative ∈ group.members.constructors)
    (hmem : category ∈ alternative.construction) : category ∈ references grammar.rules := by
  rw [rules_of_analyze h, references, List.mem_flatMap]
  exact ⟨_, constructor_mem_of_analyze h hgroup halternative, hmem⟩

/-- Entrypoints can be used. -/
theorem usable_of_mem_entrypoints (h : analyze rules extra policy = .ok grammar)
    (hrefers : RefersToKnown grammar) (hmem : category ∈ grammar.entrypoints) :
    Usable grammar category := by
  rcases mem_references_or_names_of_mem_entrypoints h hmem with hmem | hmem
  · exact usable_of_mem_references h hrefers hmem
  · exact .inl (.inr hmem)

/-- The parts of the alternatives of a category can be used. -/
theorem usable_of_mem_construction (h : analyze rules extra policy = .ok grammar)
    (hrefers : RefersToKnown grammar) {group : Group} (hgroup : group ∈ grammar.groups)
    {alternative : Constructor} (halternative : alternative ∈ group.members.constructors)
    (hmem : category ∈ alternative.construction) : Usable grammar category :=
  usable_of_mem_references h hrefers
    (mem_references_of_mem_construction h hgroup halternative hmem)

end SyntaxBridge.Swift
