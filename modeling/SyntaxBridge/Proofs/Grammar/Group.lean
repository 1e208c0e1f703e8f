import Mathlib.Data.List.Forall2
import SyntaxBridge.Grammar.Analysis
import SyntaxBridge.Proofs.Grammar.Order
import SyntaxBridge.Proofs.Outcome

/-!
# Groups of rules

The rules that declare a category are its tokens and its alternatives, in order. They make up a
group unless the category is `Contested`: declared as a token and by alternatives, or as a token
several times. The main statements are

* `Members.rules_of_ofRules`: a group holds the rules it was made from;
* `exists_groupByType_eq_error_iff`: the rules of a grammar are refused exactly if a category is
  contested;
* `analyzeGroups_eq_ok`: the groups of a grammar are its declared categories in strict order, each
  with its own rules.
-/

namespace SyntaxBridge

/-! ## The rules of one category -/

/-- A rule of a category is a token or an alternative. -/
theorem Rule.eq_token_or_eq_constructor {rule : Rule} {type : String}
    (h : rule.type? = some type) :
    (∃ token, rule = .token token) ∨ ∃ alternative, rule = .constructor alternative := by
  cases rule with
  | constructor alternative => exact .inr ⟨alternative, rfl⟩
  | token token => exact .inl ⟨token, rfl⟩
  | entrypoint _ => cases h

@[simp]
theorem Rule.token?_eq_some_iff {rule : Rule} {token : Token} :
    rule.token? = some token ↔ rule = .token token := by
  cases rule <;> simp [Rule.token?]

@[simp]
theorem Rule.constructor?_eq_some_iff {rule : Rule} {alternative : Constructor} :
    rule.constructor? = some alternative ↔ rule = .constructor alternative := by
  cases rule <;> simp [Rule.constructor?]

@[simp]
theorem Rule.entrypoint?_eq_some_iff {rule : Rule} {entrypoint : Entrypoint} :
    rule.entrypoint? = some entrypoint ↔ rule = .entrypoint entrypoint := by
  cases rule <;> simp [Rule.entrypoint?]

/-- The alternatives of a category are those among its rules. -/
theorem Members.mem_constructors {members : Members} {alternative : Constructor} :
    alternative ∈ members.constructors ↔ .constructor alternative ∈ members.rules := by
  cases members <;> simp [Members.constructors, Members.rules]

/-- Every rule of a category names it. -/
theorem type?_of_mem_rulesOf {type : String} {rules : List Rule} {rule : Rule}
    (h : rule ∈ rulesOf type rules) : rule.type? = some type := by
  simpa using (List.mem_filter.mp h).2

/-- What is read off the rules of a category is what is read off all rules and names it. -/
theorem filterMap_rulesOf {α : Type} {part? : Rule → Option α} {typeOf : α → String}
    (h : ∀ rule part, part? rule = some part → rule.type? = some (typeOf part)) (type : String)
    (rules : List Rule) :
    (rulesOf type rules).filterMap part? = (rules.filterMap part?).filter (typeOf · == type) := by
  rw [rulesOf, List.filterMap_filter, List.filter_filterMap]
  refine List.filterMap_congr fun rule _ => ?_
  cases hpart : part? rule with
  | none => simp
  | some part => simp [h rule part hpart, Option.filter]

/-- The tokens of a category are the tokens of the grammar that name it. -/
theorem filterMap_token?_rulesOf (type : String) (rules : List Rule) :
    (rulesOf type rules).filterMap Rule.token? =
      (rules.filterMap Rule.token?).filter (·.type == type) := by
  refine filterMap_rulesOf (fun rule token h => ?_) type rules
  rw [Rule.token?_eq_some_iff.mp h, Rule.type?]

/-- The alternatives of a category are the alternatives of the grammar that name it. -/
theorem filterMap_constructor?_rulesOf (type : String) (rules : List Rule) :
    (rulesOf type rules).filterMap Rule.constructor? =
      (rules.filterMap Rule.constructor?).filter (·.type == type) := by
  refine filterMap_rulesOf (fun rule alternative h => ?_) type rules
  rw [Rule.constructor?_eq_some_iff.mp h, Rule.type?]

/-- The tokens and the alternatives of a category make up its rules. -/
theorem length_tokens_add_length_constructors {type : String} {rules : List Rule}
    (htype : ∀ rule ∈ rules, rule.type? = some type) :
    (rules.filterMap Rule.token?).length + (rules.filterMap Rule.constructor?).length =
      rules.length := by
  induction rules with
  | nil => rfl
  | cons rule rules ih =>
    have ih := ih fun other h => htype other (List.mem_cons_of_mem _ h)
    obtain ⟨_, rfl⟩ | ⟨_, rfl⟩ := Rule.eq_token_or_eq_constructor (htype rule List.mem_cons_self)
    · simp [List.filterMap_cons, Rule.token?, Rule.constructor?, ← ih]
      omega
    · simp [List.filterMap_cons, Rule.token?, Rule.constructor?, ← ih]
      omega

/-- Without tokens, the rules of a category are its alternatives. -/
theorem map_constructor_filterMap {type : String} {rules : List Rule}
    (htype : ∀ rule ∈ rules, rule.type? = some type)
    (htokens : rules.filterMap Rule.token? = []) :
    (rules.filterMap Rule.constructor?).map .constructor = rules := by
  induction rules with
  | nil => rfl
  | cons rule rules ih =>
    obtain ⟨_, rfl⟩ | ⟨_, rfl⟩ := Rule.eq_token_or_eq_constructor (htype rule List.mem_cons_self)
    · simp [Rule.token?] at htokens
    · have ih := ih (fun other h => htype other (List.mem_cons_of_mem _ h))
        (by simpa [List.filterMap_cons, Rule.token?] using htokens)
      simpa [List.filterMap_cons, Rule.constructor?] using ih

/-- A category whose only rule is a token has no other rules. -/
theorem eq_singleton_of_filterMap_token? {rules : List Rule} {token : Token}
    (hlength : rules.length = 1) (htokens : rules.filterMap Rule.token? = [token]) :
    rules = [.token token] := by
  obtain ⟨rule, rfl⟩ := List.length_eq_one_iff.mp hlength
  cases rule <;> simp_all [List.filterMap_cons, Rule.token?]

namespace Members

variable {type : String} {rules : List Rule} {members : Members}

/-- What the rules of a category make of it: they are the rules that were put in. -/
theorem rules_of_ofRules (htype : ∀ rule ∈ rules, rule.type? = some type)
    (h : ofRules type rules = .ok members) : members.rules = rules := by
  unfold ofRules at h
  split at h
  next htokens =>
    cases h
    exact map_constructor_filterMap htype htokens
  next first others htokens =>
    -- With a token among them the rules are accepted only if there is no other rule.
    split at h
    · cases h
    next hlength =>
      split at h
      · cases h
        exact (eq_singleton_of_filterMap_token? (by simpa using Eq.symm (not_not.mp hlength))
          htokens).symm
      · cases h

/-- The rules of a category are refused if there is a token among them and they are several. -/
theorem exists_ofRules_eq_error_iff (htype : ∀ rule ∈ rules, rule.type? = some type) :
    (∃ e, ofRules type rules = .error e) ↔
      rules.filterMap Rule.token? ≠ [] ∧
        (rules.filterMap Rule.constructor? ≠ [] ∨ 2 ≤ (rules.filterMap Rule.token?).length) := by
  have hlength := length_tokens_add_length_constructors htype
  unfold ofRules
  split
  next htokens => simp [htokens]
  next first others htokens =>
    rw [htokens] at hlength ⊢
    rw [List.length_cons] at hlength
    split
    next hmixed =>
      -- Not all of the rules are tokens.
      have hconstructors : rules.filterMap Rule.constructor? ≠ [] := by
        intro h
        rw [h] at hlength
        exact hmixed (by simpa using hlength)
      simp [hconstructors]
    next hpure =>
      -- All of the rules are tokens, and the only question is whether there is a second one.
      have hconstructors : rules.filterMap Rule.constructor? = [] := by
        refine List.eq_nil_of_length_eq_zero ?_
        omega
      cases others with
      | nil => simp [hconstructors]
      | cons second others => simp

/-- The rules of a category are refused as a contradiction. -/
theorem kind_of_ofRules_eq_error {e : GrammarError} (h : ofRules type rules = .error e) :
    e.cause.kind = .inconsistent := by
  unfold ofRules at h
  split at h
  · cases h
  · split at h
    · cases h
      rfl
    · split at h <;> cases h
      rfl

end Members

/-! ## Contradictory declarations -/

/-- A category is declared as a token and by an alternative, or as a token several times. -/
def Contested (rules : List Rule) (type : String) : Prop :=
  ((∃ token, .token token ∈ rules ∧ token.type = type) ∧
      ∃ alternative, .constructor alternative ∈ rules ∧ alternative.type = type) ∨
    2 ≤ (rules.filterMap Rule.token?).countP (·.type == type)

/-- The declared categories are those that some rule belongs to. -/
theorem mem_declaredTypes {type : String} {rules : List Rule} :
    type ∈ declaredTypes rules ↔ ∃ rule ∈ rules, rule.type? = some type := by
  rw [declaredTypes, List.mem_eraseDups, List.mem_filterMap]

/-- The contested categories are those whose rules are refused. -/
theorem contested_iff {type : String} {rules : List Rule} :
    Contested rules type ↔ ∃ e, Members.ofRules type (rulesOf type rules) = .error e := by
  rw [Members.exists_ofRules_eq_error_iff fun _ => type?_of_mem_rulesOf,
    filterMap_token?_rulesOf, filterMap_constructor?_rulesOf, ← List.countP_eq_length_filter]
  have htokens : (rules.filterMap Rule.token?).filter (·.type == type) ≠ [] ↔
      ∃ token, .token token ∈ rules ∧ token.type = type := by
    simp
  have hconstructors : (rules.filterMap Rule.constructor?).filter (·.type == type) ≠ [] ↔
      ∃ alternative, .constructor alternative ∈ rules ∧ alternative.type = type := by
    simp
  -- Where there are two tokens there is one, so `ofRules` may ask for that first.
  have hseveral : 2 ≤ (rules.filterMap Rule.token?).countP (·.type == type) →
      (rules.filterMap Rule.token?).filter (·.type == type) ≠ [] := by
    intro h hnil
    rw [List.countP_eq_length_filter, hnil] at h
    exact absurd h (by decide)
  rw [Contested, ← htokens, ← hconstructors, and_or_left]
  exact or_congr_right ⟨fun h => ⟨hseveral h, h⟩, And.right⟩

/-- A contested category is declared. -/
theorem mem_declaredTypes_of_contested {type : String} {rules : List Rule}
    (h : Contested rules type) : type ∈ declaredTypes rules := by
  rw [mem_declaredTypes]
  rcases h with ⟨⟨token, htoken, rfl⟩, -⟩ | h
  · exact ⟨_, htoken, rfl⟩
  · obtain ⟨token, htoken, htype⟩ := List.countP_pos_iff.mp (Nat.lt_of_lt_of_le Nat.zero_lt_two h)
    exact ⟨.token token, by simpa using htoken, by simpa [Rule.type?] using htype⟩

/-! ## Groups -/

variable {rules : List Rule} {policy : BoxPolicy}

/-- The rules are grouped unless a category is contested. -/
theorem exists_groupByType_eq_error_iff :
    (∃ e, groupByType rules = .error e) ↔ ∃ type, Contested rules type := by
  rw [groupByType, Outcome.exists_mapM_eq_error_iff]
  refine exists_congr fun type => ?_
  simp only [contested_iff, Outcome.bind_eq_error_iff, pure, Except.pure]
  constructor
  · rintro ⟨-, e, h | ⟨_, _, h⟩⟩
    · exact ⟨e, h⟩
    · cases h
  · rintro ⟨e, h⟩
    exact ⟨mem_declaredTypes_of_contested (contested_iff.mpr ⟨e, h⟩), e, .inl h⟩

/-- Rules that cannot be grouped contradict each other. -/
theorem kind_of_groupByType_eq_error {e : GrammarError} (h : groupByType rules = .error e) :
    e.cause.kind = .inconsistent := by
  obtain ⟨_, type, _, _, _, h⟩ := Outcome.mapM_eq_error_iff.mp h
  rcases Outcome.bind_eq_error_iff.mp h with h | ⟨_, _, h⟩
  · exact Members.kind_of_ofRules_eq_error h
  · cases h

/-- Grouped rules list each declared category with what its rules make of it. -/
theorem groupByType_eq_ok {entries : List (String × Members)}
    (h : groupByType rules = .ok entries) :
    entries.map (·.1) = declaredTypes rules ∧
      ∀ entry ∈ entries, Members.ofRules entry.1 (rulesOf entry.1 rules) = .ok entry.2 := by
  have hforall := Outcome.mapM_eq_ok_iff.mp h
  have hentry : List.Forall₂ (fun type entry => entry.1 = type ∧
      Members.ofRules entry.1 (rulesOf entry.1 rules) = .ok entry.2)
      (declaredTypes rules) entries := by
    refine hforall.imp fun type entry hstep => ?_
    obtain ⟨members, hmembers, hentry⟩ := Outcome.bind_eq_ok_iff.mp hstep
    cases hentry
    exact ⟨rfl, hmembers⟩
  -- From here on the declared types are any list that the entries go along with.
  generalize declaredTypes rules = types at hentry
  clear h hforall
  induction hentry with
  | nil => simp
  | cons hhead _ ih =>
    refine ⟨?_, ?_⟩
    · rw [List.map_cons, hhead.1, ih.1]
    · exact List.forall_mem_cons.mpr ⟨hhead.2, ih.2⟩

/-- The groups of a grammar before cases are added by hand: the declared categories in order, each
with what its rules make of it. Tokens are not boxed. -/
theorem analyzeGroups_eq_ok {groups : List Group} (h : analyzeGroups rules policy = .ok groups) :
    groups.map (·.name) = ordered (rules.filterMap Rule.type?) ∧
      ∀ group ∈ groups,
        Members.ofRules group.name (rulesOf group.name rules) = .ok group.members ∧
          (group.isToken = true → group.boxed = false) := by
  obtain ⟨entries, hentries, h⟩ := Outcome.bind_eq_ok_iff.mp h
  obtain ⟨hnames, hmembers⟩ := groupByType_eq_ok hentries
  cases h
  refine ⟨?_, ?_⟩
  · rw [List.map_map, ordered, ← declaredTypes, ← hnames]
    exact List.map_mergeSort fun _ _ _ _ => rfl
  · intro group hgroup
    obtain ⟨entry, hentry, rfl⟩ := List.mem_map.mp hgroup
    refine ⟨hmembers entry (List.mem_mergeSort.mp hentry), fun htoken => ?_⟩
    have htoken : entry.2.isToken = true := htoken
    simp [htoken]

end SyntaxBridge
